import HashBurst.Lib.Bytes
import HashBurst.Lib.PyString
import HashBurst.Lib.Split

/-! The body that `IPFSClient._multipart` writes, and what the parser of `_handle_upload` reads in
such a body. -/

namespace HashBurst.Files

open Lib

def encode (text : String) : Bytes := text.toList.flatMap String.utf8EncodeChar

def crlf : Bytes := [13, 10]

def multipart (blob : Bytes) (filename boundary : String) : Bytes :=
  encode ("--" ++ boundary ++ "\r\n" ++
    "Content-Disposition: form-data; name=\"file\"; filename=\"" ++ filename ++ "\"\r\n" ++
    "Content-Type: application/octet-stream\r\n\r\n") ++ blob ++
  encode ("\r\n--" ++ boundary ++ "--\r\n")

def separator (boundary : String) : Bytes := encode ("--" ++ boundary)

structure Parsed where
  filename : Option String := none
  fileData : Option Bytes := none

/-- The content of a part without the line breaks of the framing. -/
def unframed (content : Bytes) : Bytes :=
  let content := if crlf.isPrefixOf content then content.drop 2 else content
  if crlf.isSuffixOf content then content.take (content.length - 2) else content

/-- `text.strip('"')` -/
def stripQuotes (text : List Char) : List Char :=
  ((text.dropWhile (· = '"')).reverse.dropWhile (· = '"')).reverse

section Parser

variable (decode : Bytes → String)

def lineName (line : Bytes) : String :=
  let last := ((split "filename=".toList (decode line).toList).getLast?).getD []
  String.ofList (stripQuotes (Py.strip (String.ofList last)).toList)

/-- The name in the last of the header lines that has one. -/
def headerName (hdrBlock : Bytes) (filename : Option String) : Option String :=
  (split crlf hdrBlock).foldl (fun filename line =>
    if encode "filename=" <:+: line then some (lineName decode line) else filename) filename

def readPart (parsed : Parsed) (chunk : Bytes) : Parsed :=
  if encode "Content-Disposition" <:+: chunk then
    let (hdrBlock, content) := partition (crlf ++ crlf) chunk
    if encode "filename=" <:+: hdrBlock then
      { filename := headerName decode hdrBlock parsed.filename, fileData := some (unframed content) }
    else parsed
  else parsed

def parse (boundary : String) (body : Bytes) : Parsed :=
  (split (separator boundary) body).foldl (readPart decode) {}

end Parser

def Plain (text : String) : Prop := ∀ c ∈ text.toList, c ≠ '"' ∧ c ≠ '\r' ∧ c ≠ '\n'

instance (text : String) : Decidable (Plain text) :=
  List.decidableBAll (fun c => c ≠ '"' ∧ c ≠ '\r' ∧ c ≠ '\n') text.toList

def tokenChar (c : Char) : Bool := c.isAlphanum || c ∈ "'()+_,-./:=? ".toList

section Encoding

variable {text : String}

theorem encode_append (first second : String) :
    encode (first ++ second) = encode first ++ encode second := by
  unfold encode
  rw [String.toList_append, List.flatMap_append]

theorem high_byte {value : Nat} (high : 128 ≤ value) (fits : value < 256) :
    ¬(UInt8.ofNat value).toNat < 128 := by
  rw [UInt8.toNat_ofNat', Nat.mod_eq_of_lt fits]
  omega

theorem utf8EncodeChar_high {c : Char} (wide : ¬c.val.toNat ≤ 127) :
    ∀ byte ∈ String.utf8EncodeChar c, ¬byte.toNat < 128 := by
  unfold String.utf8EncodeChar
  dsimp only
  rw [if_neg wide]
  split_ifs
  · simp only [List.forall_mem_cons]
    exact ⟨high_byte (by omega) (by omega), high_byte (by omega) (by omega), by simp⟩
  · simp only [List.forall_mem_cons]
    exact ⟨high_byte (by omega) (by omega), high_byte (by omega) (by omega),
      high_byte (by omega) (by omega), by simp⟩
  · simp only [List.forall_mem_cons]
    exact ⟨high_byte (by omega) (by omega), high_byte (by omega) (by omega),
      high_byte (by omega) (by omega), high_byte (by omega) (by omega), by simp⟩

theorem mem_encode_ascii {byte : UInt8} (member : byte ∈ encode text) (ascii : byte.toNat < 128) :
    ∃ c ∈ text.toList, c.toNat = byte.toNat := by
  obtain ⟨c, listed, among⟩ := List.mem_flatMap.mp member
  refine ⟨c, listed, ?_⟩
  by_cases narrow : c.val.toNat ≤ 127
  · have small : c.val.toNat < 256 := by omega
    unfold String.utf8EncodeChar at among
    dsimp only at among
    rw [if_pos narrow, List.mem_singleton] at among
    rw [among, UInt8.toNat_ofNat', Nat.mod_eq_of_lt small]
    rfl
  · exact absurd ascii (utf8EncodeChar_high narrow byte among)

theorem plain_bytes (plain : Plain text) : 34 ∉ encode text ∧ 13 ∉ encode text ∧ 10 ∉ encode text := by
  have missing (byte : UInt8) (ascii : byte.toNat < 128) (c : Char) (code : c.toNat = byte.toNat)
      (absent : c ∉ text.toList) : byte ∉ encode text := by
    intro member
    obtain ⟨found, listed, same⟩ := mem_encode_ascii member ascii
    have equal : found = c := Char.ext (UInt32.toNat_inj.mp (same.trans code.symm))
    exact absent (equal ▸ listed)
  refine ⟨missing 34 (by decide) '"' (by decide) ?_, missing 13 (by decide) '\r' (by decide) ?_,
    missing 10 (by decide) '\n' (by decide) ?_⟩
  · exact fun listed => (plain _ listed).1 rfl
  · exact fun listed => (plain _ listed).2.1 rfl
  · exact fun listed => (plain _ listed).2.2 rfl

theorem token_plain (token : ∀ c ∈ text.toList, tokenChar c = true) : Plain text := by
  intro c listed
  have allowed := token c listed
  refine ⟨?_, ?_, ?_⟩
  · intro same
    rw [same] at allowed
    revert allowed
    decide
  · intro same
    rw [same] at allowed
    revert allowed
    decide
  · intro same
    rw [same] at allowed
    revert allowed
    decide

end Encoding

/-- The header of the part before the quote that opens the name. -/
def headerFront : Bytes := encode "\r\nContent-Disposition: form-data; name=\"file\"; filename="

/-- The header after the quote that closes the name, without its last letter. -/
def headerBack : Bytes := encode "\r\nContent-Type: application/octet-strea"

/-- What follows the quote that closes the name, up to the next boundary. -/
def frame (content : Bytes) : Bytes := headerBack ++ 109 :: (crlf ++ crlf ++ (content ++ crlf))

def ending : Bytes := encode "--\r\n"

section Body

variable {boundary name : String} {content text : Bytes}

theorem multipart_eq (content : Bytes) (name boundary : String) :
    multipart content name boundary = separator boundary ++ (headerFront ++ 34 :: (encode name ++
      34 :: (frame content ++ (separator boundary ++ ending)))) := by
  have first : encode "\r\n" ++ encode "Content-Disposition: form-data; name=\"file\"; filename=\"" =
      headerFront ++ [34] := by decide
  have second : encode "\"\r\n" ++ encode "Content-Type: application/octet-stream\r\n\r\n" =
      34 :: (headerBack ++ 109 :: (crlf ++ crlf)) := by decide
  have third : encode "\r\n--" = crlf ++ encode "--" := by decide
  have last : encode "--\r\n" = ending := rfl
  calc
    multipart content name boundary =
        separator boundary ++ ((encode "\r\n" ++
          encode "Content-Disposition: form-data; name=\"file\"; filename=\"") ++ (encode name ++
          ((encode "\"\r\n" ++ encode "Content-Type: application/octet-stream\r\n\r\n") ++
            (content ++ (encode "\r\n--" ++ (encode boundary ++ encode "--\r\n")))))) := by
      unfold multipart separator
      simp only [encode_append, List.append_assoc]
    _ = _ := by
      rw [first, second, third, last]
      unfold frame separator
      simp only [encode_append, List.append_assoc, List.cons_append, List.nil_append]

theorem separator_some : separator boundary ≠ [] := by
  unfold separator
  rw [encode_append]
  intro empty
  have dashes : encode "--" = [] := (List.append_eq_nil_iff.mp empty).1
  revert dashes
  decide

theorem separator_plain (plain : Plain boundary) :
    34 ∉ separator boundary ∧ 13 ∉ separator boundary ∧ 10 ∉ separator boundary := by
  apply plain_bytes
  intro c listed
  rw [String.toList_append, List.mem_append] at listed
  rcases listed with dash | own
  · have same : c = '-' := by
      revert dash
      simp
    rw [same]
    decide
  · exact plain c own

/-- A text without two dashes in a row has no boundary in it. -/
theorem separator_absent (clear : ¬[45, 45] <:+: text) : ¬separator boundary <:+: text := by
  intro contains
  have dashes : encode "--" = [45, 45] := by decide
  have starts : [45, 45] <+: separator boundary := by
    unfold separator
    rw [encode_append, dashes]
    exact List.prefix_append _ _
  exact clear (starts.isInfix.trans contains)

/-- What the body is split into, for the pieces into which the name is split. -/
theorem split_multipart {pieces : List Bytes} {last : Bytes} (plain : Plain boundary)
    (clean : ¬separator boundary <:+: content)
    (split' : split (separator boundary) (encode name) = pieces ++ [last]) :
    split (separator boundary) (multipart content name boundary) =
      [] :: (pieces ++ [last ++ 34 :: frame content]).modifyHead (headerFront ++ 34 :: ·) ++
        split (separator boundary) ending := by
  obtain ⟨quote, cr, lf⟩ := separator_plain plain
  have closed : frame content =
      ((headerBack ++ 109 :: [13, 10, 13]) ++ 10 :: (content ++ 13 :: [])) ++ [10] := by
    unfold frame crlf
    simp
  have absent : ¬separator boundary <:+:
      (headerBack ++ 109 :: [13, 10, 13]) ++ 10 :: (content ++ 13 :: []) := by
    rw [infix_cut lf, infix_cut cr]
    rintro (header | inner | none)
    · exact separator_absent (by decide) header
    · exact clean inner
    · exact separator_some (List.infix_nil.mp none)
  have framed : split (separator boundary) (frame content ++ (separator boundary ++ ending)) =
      frame content :: split (separator boundary) ending := by
    rw [closed, List.append_assoc, List.singleton_append, split_first separator_some lf absent]
  have header : ¬separator boundary <:+: headerFront := separator_absent (by decide)
  rw [multipart_eq, split_sep separator_some, split_cut separator_some quote,
    split_absent header, split_cut separator_some quote, split', framed, joined_concat]
  cases pieces with
  | nil => rfl
  | cons first pieces => simp [joined]

end Body

section Loop

variable {decode : Bytes → String} {boundary name : String} {content chunk last : Bytes}
  {chunks pieces : List Bytes} {parsed : Parsed}

theorem framed_starts : crlf <+: content ++ crlf ↔ content = [] ∨ crlf <+: content := by
  constructor
  · intro starts
    match content with
    | [] => exact .inl rfl
    | [byte] =>
        have second : (13 : UInt8) = 10 := by
          have whole := List.cons_prefix_cons.mp starts
          exact (List.cons_prefix_cons.mp whole.2).1.symm
        exact absurd second (by decide)
    | first :: second :: rest =>
        right
        apply List.prefix_of_prefix_length_le starts (List.prefix_append _ _)
        exact Nat.le_add_left 2 rest.length
  · rintro (empty | starts)
    · rw [empty, List.nil_append]
    · exact starts.trans (List.prefix_append _ _)

theorem unframed_framed (content : Bytes) :
    unframed (content ++ crlf) = if crlf <+: content then content.drop 2 else content := by
  have closed (front : Bytes) : (if crlf.isSuffixOf (front ++ crlf) then
      (front ++ crlf).take ((front ++ crlf).length - 2) else front ++ crlf) = front := by
    rw [if_pos (List.isSuffixOf_iff_suffix.mpr (List.suffix_append _ _)), List.length_append]
    exact List.take_left
  unfold unframed
  dsimp only
  by_cases starts : crlf <+: content
  · have opens : crlf.isPrefixOf (content ++ crlf) = true :=
      List.isPrefixOf_iff_prefix.mpr (framed_starts.mpr (.inr starts))
    obtain ⟨rest, whole⟩ := starts
    have dropped : (content ++ crlf).drop 2 = rest ++ crlf := by
      rw [← whole]
      rfl
    rw [if_pos opens, dropped, closed, if_pos ⟨rest, whole⟩, ← whole]
    rfl
  · rw [if_neg starts]
    by_cases empty : content = []
    · rw [empty]
      decide
    · have apart : ¬crlf.isPrefixOf (content ++ crlf) = true := by
        rw [List.isPrefixOf_iff_prefix, framed_starts]
        exact not_or.mpr ⟨empty, starts⟩
      rw [if_neg apart, closed]

theorem readPart_other (other : ¬encode "Content-Disposition" <:+: chunk) :
    readPart decode parsed chunk = parsed := by
  unfold readPart
  rw [if_neg other]

private theorem readParts_other
    (others : ∀ chunk ∈ chunks, ¬encode "Content-Disposition" <:+: chunk) :
    chunks.foldl (readPart decode) parsed = parsed := by
  induction chunks with
  | nil => rfl
  | cons head tail ih =>
      rw [List.foldl_cons, readPart_other (others head List.mem_cons_self)]
      exact ih fun chunk member => others chunk (List.mem_cons_of_mem _ member)

/-- A part in which the header does not end has no content. -/
theorem readPart_open (endless : ¬crlf ++ crlf <:+: chunk) (empty : parsed.fileData = some []) :
    (readPart decode parsed chunk).fileData = some [] := by
  unfold readPart
  rw [partition_absent endless]
  dsimp only
  split_ifs
  · rfl
  · exact empty
  · exact empty

theorem readParts_open (endless : ∀ chunk ∈ chunks, ¬crlf ++ crlf <:+: chunk)
    (empty : parsed.fileData = some []) :
    (chunks.foldl (readPart decode) parsed).fileData = some [] := by
  induction chunks generalizing parsed with
  | nil => exact empty
  | cons head tail ih =>
      rw [List.foldl_cons]
      apply ih (fun chunk member => endless chunk (List.mem_cons_of_mem _ member))
      exact readPart_open (endless head List.mem_cons_self) empty

/-- The part that ends with the frame: its header ends there, if it has not ended before. -/
theorem readPart_frame (endless : ¬crlf ++ crlf <:+: last ++ headerBack) :
    (readPart decode parsed (last ++ frame content)).fileData =
      if encode "Content-Disposition" <:+: last ++ frame content ∧
          encode "filename=" <:+: last ++ headerBack ++ [109] then
        some (if crlf <+: content then content.drop 2 else content)
      else parsed.fileData := by
  have cut : partition (crlf ++ crlf) (last ++ frame content) =
      (last ++ headerBack ++ [109], content ++ crlf) := by
    unfold frame
    rw [← List.append_assoc]
    exact partition_cut (by decide) endless
  unfold readPart
  rw [cut]
  dsimp only
  by_cases disposed : encode "Content-Disposition" <:+: last ++ frame content
  · rw [if_pos disposed]
    by_cases named : encode "filename=" <:+: last ++ headerBack ++ [109]
    · rw [if_pos named, if_pos ⟨disposed, named⟩, unframed_framed]
    · rw [if_neg named, if_neg (not_and_of_not_right _ named)]
  · rw [if_neg disposed, if_neg (not_and_of_not_left _ disposed)]

theorem disposition_frame : encode "Content-Disposition" <:+: last ++ 34 :: frame content ↔
    encode "Content-Disposition" <:+: last ∨ encode "Content-Disposition" <:+: content := by
  have spread : frame content =
      headerBack ++ 109 :: ([13, 10, 13] ++ 10 :: (content ++ 13 :: [10])) := by
    unfold frame crlf
    simp
  have type : ¬encode "Content-Disposition" <:+: headerBack := by decide
  have blank : ¬encode "Content-Disposition" <:+: [13, 10, 13] := by decide
  have lf : ¬encode "Content-Disposition" <:+: [10] := by decide
  rw [infix_cut (by decide), spread, infix_cut (by decide +kernel),
    infix_cut (by decide), infix_cut (by decide +kernel)]
  simp only [type, blank, lf, false_or, or_false]

private theorem filename_frame :
    encode "filename=" <:+: last ++ 34 :: (headerBack ++ [109]) ↔ encode "filename=" <:+: last := by
  have type : ¬encode "filename=" <:+: headerBack ++ [109] := by decide
  rw [infix_cut (by decide)]
  simp only [type, or_false]

private theorem readPart_empty (endless : ¬crlf ++ crlf <:+: chunk)
    (disposed : encode "Content-Disposition" <:+: chunk) (named : encode "filename=" <:+: chunk) :
    (readPart decode parsed chunk).fileData = some [] := by
  unfold readPart
  rw [partition_absent endless]
  dsimp only
  rw [if_pos disposed, if_pos named]
  rfl

private theorem ending_other : ∀ chunk ∈ split (separator boundary) ending,
    ¬encode "Content-Disposition" <:+: chunk := by
  intro chunk member contains
  have letter : (67 : UInt8) ∈ encode "Content-Disposition" := by decide
  have inside : (67 : UInt8) ∈ ending := split_subset chunk member (contains.subset letter)
  revert inside
  decide

private theorem endless_of_plain (plain : 13 ∉ chunk) : ¬crlf ++ crlf <:+: chunk :=
  fun contains => plain (contains.subset (by decide))

/-- What the parser finds, for the pieces into which the name is split. -/
theorem parse_fileData (bounded : Plain boundary) (plain : Plain name)
    (clean : ¬separator boundary <:+: content)
    (split' : split (separator boundary) (encode name) = pieces ++ [last]) :
    (parse decode boundary (multipart content name boundary)).fileData =
      if pieces = [] ∨ encode "filename=" <:+: last ∧
          (encode "Content-Disposition" <:+: last ∨ encode "Content-Disposition" <:+: content) then
        some (if crlf <+: content then content.drop 2 else content)
      else some [] := by
  have cr : (13 : UInt8) ∉ encode name := (plain_bytes plain).2.1
  have endless : ∀ piece ∈ pieces ++ [last], ¬crlf ++ crlf <:+: piece := fun piece member =>
    endless_of_plain fun inside => cr (split_subset piece (split' ▸ member) inside)
  have blank : (34 : UInt8) ∉ crlf ++ crlf := by decide
  have front : ¬crlf ++ crlf <:+: headerFront := by decide
  have back : ¬crlf ++ crlf <:+: headerBack := by decide
  have lastEndless := endless last (by simp)
  have disposed : encode "Content-Disposition" <:+: headerFront := by decide
  have named : encode "filename=" <:+: headerFront := by decide
  have nothing : ¬encode "Content-Disposition" <:+: [] := by decide
  unfold parse
  rw [split_multipart bounded clean split', List.foldl_append, readParts_other ending_other,
    List.foldl_cons, readPart_other nothing]
  cases pieces with
  | nil =>
      have whole : headerFront ++ 34 :: (last ++ 34 :: frame content) =
          headerFront ++ 34 :: (last ++ [34]) ++ frame content := by simp
      have header : ¬crlf ++ crlf <:+: headerFront ++ 34 :: (last ++ [34]) ++ headerBack := by
        rw [List.append_assoc, List.cons_append, List.append_assoc, List.singleton_append,
          infix_cut blank, infix_cut blank]
        rintro (one | two | three)
        · exact front one
        · exact lastEndless two
        · exact back three
      have starts : headerFront <:+: headerFront ++ 34 :: (last ++ [34]) ++ frame content := by
        rw [List.append_assoc]
        exact (List.prefix_append _ _).isInfix
      have opens : headerFront <:+: headerFront ++ 34 :: (last ++ [34]) ++ headerBack ++ [109] := by
        rw [List.append_assoc, List.append_assoc]
        exact (List.prefix_append _ _).isInfix
      change (readPart decode {} (headerFront ++ 34 :: (last ++ 34 :: frame content))).fileData = _
      have some' : ([] : List Bytes) = [] ∨ encode "filename=" <:+: last ∧
          (encode "Content-Disposition" <:+: last ∨ encode "Content-Disposition" <:+: content) :=
        .inl rfl
      rw [whole, readPart_frame header, if_pos ⟨disposed.trans starts, named.trans opens⟩,
        if_pos some']
  | cons first pieces =>
      have header : ¬crlf ++ crlf <:+: headerFront ++ 34 :: first := by
        rw [infix_cut blank]
        rintro (one | two)
        · exact front one
        · exact endless first List.mem_cons_self two
      have opens : headerFront <:+: headerFront ++ 34 :: first := (List.prefix_append _ _).isInfix
      have begun : (readPart decode {} (headerFront ++ 34 :: first)).fileData = some [] :=
        readPart_empty header (disposed.trans opens) (named.trans opens)
      have empty : (pieces.foldl (readPart decode)
          (readPart decode {} (headerFront ++ 34 :: first))).fileData = some [] :=
        readParts_open (fun chunk member => endless chunk (by simp [member])) begun
      have closes : ¬crlf ++ crlf <:+: last ++ [34] ++ headerBack := by
        rw [List.append_assoc, List.singleton_append, infix_cut blank]
        rintro (one | two)
        · exact lastEndless one
        · exact back two
      have whole : last ++ 34 :: frame content = last ++ [34] ++ frame content := by simp
      have line : last ++ [34] ++ headerBack ++ [109] = last ++ 34 :: (headerBack ++ [109]) := by
        simp
      rw [List.cons_append, List.modifyHead_cons, List.foldl_cons, List.foldl_append,
        List.foldl_cons, List.foldl_nil, whole, readPart_frame closes, ← whole, line,
        empty]
      refine if_congr ?_ rfl rfl
      rw [disposition_frame, filename_frame, and_comm, or_iff_right (List.cons_ne_nil _ _)]

end Loop

def nameRest (boundary name : String) : Bytes :=
  (split (separator boundary) (encode name)).getLastD []

/-- Where the boundary stands in the name, what follows it there must pass for the header of the
part. -/
def HeaderSurvives (boundary name : String) (content : Bytes) : Prop :=
  separator boundary <:+: encode name →
    encode "filename=" <:+: nameRest boundary name ∧
      (encode "Content-Disposition" <:+: nameRest boundary name ∨
        encode "Content-Disposition" <:+: content)

/-- The content of a file is found as it was written exactly where it is empty, or begins with no
line break in a part whose header survives. -/
theorem upload_exact (decode : Bytes → String) (boundary name : String) (content : Bytes)
    (token : ∀ c ∈ boundary.toList, tokenChar c = true) (plain : Plain name)
    (clean : ¬separator boundary <:+: content) :
    (parse decode boundary (multipart content name boundary)).fileData = some content ↔
      content = [] ∨ HeaderSurvives boundary name content ∧ ¬crlf <+: content := by
  have bounded : Plain boundary := token_plain token
  have more : split (separator boundary) (encode name) ≠ [] := split_ne_nil
  obtain ⟨pieces, last, pieced⟩ := (List.eq_nil_or_concat _).resolve_left more
  rw [List.concat_eq_append] at pieced
  have rest : nameRest boundary name = last := by
    unfold nameRest
    rw [pieced]
    simp
  have single : pieces = [] ↔ ¬separator boundary <:+: encode name := by
    constructor
    · intro none contains
      obtain ⟨first, next, parts, several⟩ := split_several separator_some contains
      rw [pieced, none] at several
      cases several
    · intro absent
      rw [split_absent absent] at pieced
      have size := congrArg List.length pieced
      rw [List.length_append, List.length_singleton, List.length_singleton] at size
      exact List.eq_nil_of_length_eq_zero (by omega)
  have survives : HeaderSurvives boundary name content ↔ pieces = [] ∨
      encode "filename=" <:+: last ∧ (encode "Content-Disposition" <:+: last ∨
        encode "Content-Disposition" <:+: content) := by
    unfold HeaderSurvives
    rw [rest, single, imp_iff_not_or]
  rw [parse_fileData bounded plain clean pieced, survives]
  split_ifs with held starts
  · have long : 2 ≤ content.length := starts.length_le
    constructor
    · intro same
      have size := congrArg List.length (Option.some.inj same)
      rw [List.length_drop] at size
      omega
    · rintro (empty | kept)
      · rw [empty] at long
        exact absurd long (by decide)
      · exact absurd starts kept.2
  · exact iff_of_true rfl (.inr ⟨held, starts⟩)
  · constructor
    · intro same
      exact .inl (Option.some.inj same).symm
    · rintro (empty | kept)
      · rw [empty]
      · exact absurd kept.1 held

def decodeAscii (bytes : Bytes) : String :=
  String.ofList (bytes.map fun byte => Char.ofNat byte.toNat)

/-- A content that ends with a line break. -/
theorem upload_exact_ending :
    (parse decodeAscii "----hbfiles0" (multipart [65, 13, 10] "a.bin" "----hbfiles0")).fileData =
      some [65, 13, 10] :=
  (upload_exact decodeAscii "----hbfiles0" "a.bin" [65, 13, 10]
    (List.all_eq_true.mp (by decide +kernel)) (by decide +kernel) (by decide +kernel)).mpr
      (.inr ⟨fun contains => absurd contains (by decide +kernel), by decide⟩)

/-- A content that begins with a line break loses it. -/
theorem upload_cut :
    (∀ c ∈ "----hbfiles0".toList, tokenChar c = true) ∧ Plain "a.bin" ∧
      ¬separator "----hbfiles0" <:+: [13, 10, 65] ∧
      (parse decodeAscii "----hbfiles0"
        (multipart [13, 10, 65] "a.bin" "----hbfiles0")).fileData ≠ some [13, 10, 65] := by
  have token : ∀ c ∈ "----hbfiles0".toList, tokenChar c = true :=
    List.all_eq_true.mp (by decide +kernel)
  have plain : Plain "a.bin" := by decide +kernel
  have clean : ¬separator "----hbfiles0" <:+: [13, 10, 65] := by decide +kernel
  have whole : split (separator "----hbfiles0") (encode "a.bin") = [] ++ [encode "a.bin"] := by
    decide +kernel
  refine ⟨token, plain, clean, fun same => ?_⟩
  rw [parse_fileData (token_plain token) plain clean whole] at same
  revert same
  decide +kernel

end HashBurst.Files
