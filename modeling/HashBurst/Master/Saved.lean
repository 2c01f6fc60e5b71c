import HashBurst.Master.Settings

namespace HashBurst.Master

open Lib Lib.Py Lib.Py.JsonText

/-- Distinct keys that Python can hash, with values that JSON text holds. -/
structure Holds (bounds : Bounds) (nesting : Nat) (settings : Settings) : Prop where
  hashable : ∀ entry ∈ settings, entry.1.key.isSome = true
  distinct : (settings.map fun entry => entry.1.key).Nodup
  fits : ∀ entry ∈ settings, Fits bounds nesting entry.2

def Named (settings : Settings) : Prop := ∀ entry ∈ settings, ∃ name, entry.1 = .str name

section Updates

variable {bounds : Bounds} {nesting : Nat} {settings : Settings} {key value : Json}

theorem put_keys (key value : Json) (settings : Settings) (other : Option Key) :
    other ∈ (settings.put key value).map (fun entry => entry.1.key) ↔
      other = key.key ∨ other ∈ settings.map fun entry => entry.1.key := by
  induction settings with
  | nil => simp [Settings.put]
  | cons head tail ih =>
      rcases head with ⟨own, old⟩
      rw [Settings.put]
      by_cases same : own.key = key.key
      · rw [if_pos same, List.map_cons, List.map_cons, List.mem_cons, same]
        simp
      · rw [if_neg same, List.map_cons, List.mem_cons, ih, List.map_cons, List.mem_cons]
        exact or_left_comm

theorem put_mem {entry : Json × Json} (member : entry ∈ settings.put key value) :
    entry ∈ settings ∨ entry.2 = value ∧ (entry.1 = key ∨ ∃ old, (entry.1, old) ∈ settings) := by
  induction settings with
  | nil =>
      rw [Settings.put, List.mem_singleton] at member
      rw [member]
      exact .inr ⟨rfl, .inl rfl⟩
  | cons head tail ih =>
      rcases head with ⟨own, old⟩
      rw [Settings.put] at member
      split at member
      · rcases List.mem_cons.mp member with rfl | member
        · exact .inr ⟨rfl, .inr ⟨old, List.mem_cons_self⟩⟩
        · exact .inl (List.mem_cons_of_mem _ member)
      · rcases List.mem_cons.mp member with rfl | member
        · exact .inl List.mem_cons_self
        · rcases ih member with kept | ⟨new, same | ⟨old, listed⟩⟩
          · exact .inl (List.mem_cons_of_mem _ kept)
          · exact .inr ⟨new, .inl same⟩
          · exact .inr ⟨new, .inr ⟨old, List.mem_cons_of_mem _ listed⟩⟩

theorem put_holds (hashable : key.key.isSome = true) (fits : Fits bounds nesting value)
    (holds : Holds bounds nesting settings) : Holds bounds nesting (settings.put key value) where
  hashable := by
    intro entry member
    rcases put_mem member with kept | ⟨-, same | ⟨old, listed⟩⟩
    · exact holds.hashable entry kept
    · rw [same]
      exact hashable
    · exact holds.hashable (entry.1, old) listed
  distinct := by
    have distinct := holds.distinct
    clear holds
    induction settings with
    | nil => exact List.nodup_singleton _
    | cons head tail ih =>
        rcases head with ⟨own, old⟩
        rw [List.map_cons, List.nodup_cons] at distinct
        rw [Settings.put]
        by_cases same : own.key = key.key
        · rw [if_pos same]
          exact List.nodup_cons.mpr distinct
        · rw [if_neg same]
          refine List.nodup_cons.mpr ⟨?_, ih distinct.2⟩
          rw [put_keys, not_or]
          exact ⟨same, distinct.1⟩
  fits := by
    intro entry member
    rcases put_mem member with kept | ⟨new, -⟩
    · exact holds.fits entry kept
    · rw [new]
      exact fits

private theorem mergeFields_holds {fields : Dict}
    (fits : ∀ field ∈ fields, Fits bounds nesting field.2)
    (holds : Holds bounds nesting settings) :
    Holds bounds nesting (settings.mergeFields fields) := by
  induction fields generalizing settings with
  | nil => exact holds
  | cons head tail ih =>
      apply ih fun field member => fits field (List.mem_cons_of_mem _ member)
      exact put_holds rfl (fits head List.mem_cons_self) holds

theorem fits_mono {deeper : Nat} (fits : Fits bounds nesting value) (below : nesting ≤ deeper) :
    Fits bounds deeper value := by
  induction fits generalizing deeper with
  | null => exact .null
  | bool value => exact .bool value
  | int short => exact .int short
  | float float => exact .float float
  | str text => exact .str text
  | @arr nesting items each ih =>
      cases deeper with
      | zero => exact absurd below (Nat.not_succ_le_zero _)
      | succ deeper => exact .arr fun item member => ih item member (Nat.le_of_succ_le_succ below)
  | @obj nesting fields distinct each ih =>
      cases deeper with
      | zero => exact absurd below (Nat.not_succ_le_zero _)
      | succ deeper =>
          exact .obj distinct fun field member => ih field member (Nat.le_of_succ_le_succ below)

theorem pairOf_fits {item : Json} (fits : Fits bounds nesting item)
    (pair : Settings.pairOf item = some (key, value)) : Fits bounds nesting value := by
  unfold Settings.pairOf at pair
  split at pair
  · cases pair
    cases fits with
    | arr each =>
        exact fits_mono (each _ (List.mem_cons_of_mem _ List.mem_cons_self)) (Nat.le_succ _)
  · cases pair
    exact .str _
  · split at pair
    · cases pair
      exact .str _
    · cases pair
  · cases pair

theorem mergePairs_holds {items : List Json} (fits : ∀ item ∈ items, Fits bounds nesting item)
    (holds : Holds bounds nesting settings) :
    Holds bounds nesting (settings.mergePairs items).1 := by
  induction items generalizing settings with
  | nil => exact holds
  | cons head tail ih =>
      unfold Settings.mergePairs
      split
      · rename_i key value pair
        split
        · rename_i hashable
          apply ih fun item member => fits item (List.mem_cons_of_mem _ member)
          exact put_holds hashable (pairOf_fits (fits head List.mem_cons_self) pair) holds
        · exact holds
      · exact holds

private theorem update_holds {posted : Json} (fits : Fits bounds (nesting + 1) posted)
    (holds : Holds bounds nesting settings) : Holds bounds nesting (settings.update posted).1 := by
  cases fits with
  | arr each => exact mergePairs_holds each holds
  | obj distinct each => exact mergeFields_holds each holds
  | _ => exact holds

end Updates

section Files

variable {py : Interpreter} {nesting : Nat} {settings : Settings} {fields : Dict}

theorem same_refl {bounds : Bounds} {value : Json} (fits : Fits bounds nesting value) :
    value.Same value := by
  induction fits with
  | null => exact .null
  | bool value => exact .bool value
  | int short => exact .int _
  | float float => exact .float _
  | str text => exact .str text
  | @arr nesting items each ih =>
      apply Json.Same.arr rfl
      intro place one other first second
      rw [first] at second
      rw [← Option.some.inj second]
      exact ih one (List.mem_of_getElem? first)
  | @obj nesting fields distinct each ih =>
      apply Json.Same.obj (fun _ => rfl)
      intro name one other first second
      rw [first] at second
      rw [← Option.some.inj second]
      exact ih (name, one) ((lookup_mem distinct).mp first)

private theorem equal_refl (holds : Holds py.bounds nesting settings) :
    settings.Equal settings := by
  intro key
  unfold Settings.find
  cases found : settings.find? fun entry => entry.1.key = some key with
  | none => exact .none
  | some entry => exact .some (same_refl (holds.fits entry (List.mem_of_find?_eq_some found)))

theorem ofDict_names (fields : Dict) :
    (Settings.ofDict fields).map (fun entry => entry.1.key) =
      fields.map fun field => some (Key.text field.1) := by
  unfold Settings.ofDict
  rw [List.map_map]
  rfl

theorem ofDict_holds (distinct : (fields.map Prod.fst).Nodup)
    (fits : ∀ field ∈ fields, Fits py.bounds nesting field.2) :
    Holds py.bounds nesting (Settings.ofDict fields) where
  hashable := by
    intro entry member
    rcases List.mem_map.mp member with ⟨field, -, rfl⟩
    rfl
  distinct := by
    rw [ofDict_names]
    have injective : Function.Injective fun name : String => some (Key.text name) := by
      intro one other same
      exact Key.text.inj (Option.some.inj same)
    have mapped := distinct.map injective
    rw [List.map_map] at mapped
    exact mapped
  fits := by
    intro entry member
    rcases List.mem_map.mp member with ⟨field, listed, rfl⟩
    exact fits field listed

theorem named_ofDict (named : Named settings) :
    settings = Settings.ofDict (settings.map fun entry => (keyText entry.1, entry.2)) := by
  unfold Settings.ofDict
  rw [List.map_map]
  conv_lhs => rw [← List.map_id settings]
  apply List.map_congr_left
  rintro ⟨key, value⟩ member
  rcases named _ member with ⟨name, same⟩
  simp only at same
  subst same
  rfl

theorem loadConfig_ok {text : List Char} {loaded : Settings} :
    loadConfig py (some text) = .ok loaded ↔ ∃ fields, loads py.bounds text = .ok (.obj fields) ∧
      checkConfig py (Settings.ofDict fields) = .ok () ∧ loaded = Settings.ofDict fields := by
  unfold loadConfig
  simp only
  constructor
  · intro done
    split at done
    · cases done
    · cases done
    · cases done
    · cases done
    · rename_i fields read
      rcases map_eq_ok done with ⟨_, checked, same⟩
      exact ⟨fields, read, checked, same.symm⟩
    · cases done
  · rintro ⟨fields, read, checked, rfl⟩
    rw [read]
    simp only
    rw [checked]
    rfl

theorem loadConfig_holds {text : List Char} {loaded : Settings}
    (done : loadConfig py (some text) = .ok loaded) :
    Named loaded ∧ ∃ nesting, py.bounds.nesting = nesting + 1 ∧ Holds py.bounds nesting loaded := by
  rcases loadConfig_ok.mp done with ⟨fields, read, -, rfl⟩
  have fits := loads_fits read
  generalize py.bounds.nesting = whole at fits ⊢
  cases fits with
  | @obj nesting fields distinct each =>
      refine ⟨?_, nesting, rfl, ofDict_holds distinct each⟩
      intro entry member
      rcases List.mem_map.mp member with ⟨field, -, rfl⟩
      exact ⟨field.1, rfl⟩

/-- The file of a dict whose keys are strings is read as that dict. -/
theorem loads_dumpConfig (deep : py.bounds.nesting = nesting + 1) (named : Named settings)
    (holds : Holds py.bounds nesting settings) :
    ∃ fields, loads py.bounds (dumpConfig settings) = .ok (.obj fields) ∧
      Settings.ofDict fields = settings := by
  refine ⟨settings.map fun entry => (keyText entry.1, entry.2), ?_, (named_ofDict named).symm⟩
  unfold dumpConfig
  apply Layout.loads_write
  rw [deep]
  apply Fits.obj
  · have distinct := holds.distinct
    rw [named_ofDict named, ofDict_names] at distinct
    have shape : (settings.map fun entry => (keyText entry.1, entry.2)).map
        (fun field => some (Key.text field.1)) =
        ((settings.map fun entry => (keyText entry.1, entry.2)).map Prod.fst).map
          fun name => some (Key.text name) := by
      rw [List.map_map, List.map_map, List.map_map]
      rfl
    rw [shape] at distinct
    exact distinct.of_map _
  · intro field member
    rcases List.mem_map.mp member with ⟨entry, listed, rfl⟩
    exact holds.fits entry listed

theorem key_text {value : Json} {name : String} (same : value.key = some (.text name)) :
    value = .str name := by
  cases value with
  | str text =>
      cases same
      rfl
  | _ => cases same

theorem named_of_equal {loaded : Settings} (named : Named loaded)
    (holds : Holds py.bounds nesting settings) (equal : loaded.Equal settings) : Named settings := by
  intro entry member
  rcases Option.isSome_iff_exists.mp (holds.hashable entry member) with ⟨key, own⟩
  have known : (settings.find key).isSome = true := by
    unfold Settings.find
    rw [Option.isSome_map, List.find?_isSome]
    exact ⟨entry, member, decide_eq_true own⟩
  have found : (loaded.find key).isSome = true := by
    have related := equal key
    cases first : loaded.find key with
    | some value => rfl
    | none =>
        rw [first] at related
        cases related' : settings.find key with
        | none =>
            rw [related'] at known
            cases known
        | some value =>
            rw [related'] at related
            cases related
  unfold Settings.find at found
  rw [Option.isSome_map, List.find?_isSome] at found
  rcases found with ⟨other, listed, same⟩
  rcases named other listed with ⟨name, text⟩
  rw [decide_eq_true_eq, text] at same
  have text' : entry.1.key = some (.text name) := by
    rw [own, ← same]
    rfl
  exact ⟨name, key_text text'⟩

end Files

section Posts

variable {py : Interpreter} {settings : Settings} {posted : Json}

/-- The pairs that a value gives to `update`. -/
def pairs : Json → List (Json × Json)
  | .obj fields => fields.map fun field => (.str field.1, field.2)
  | .arr items => items.filterMap Settings.pairOf
  | _ => []

/-- The value that `update` sets for a name. -/
def sets (posted : Json) (name : String) : Option Json := Settings.named (pairs posted).reverse name

/-- The keys are strings, and the coins and the segmentation are what a start asks for. -/
structure Restartable (py : Interpreter) (posted : Json) : Prop where
  keys : Named (pairs posted)
  coins : ∀ value, sets posted "coins" = some value → ∃ coin rest, value = .obj (coin :: rest)
  segmentation : ∀ value, sets posted "segmentation" = some value →
    ∃ fields, value = .obj fields ∧ segmentationInvalid py fields = .ok false

theorem find_put (key value : Json) (settings : Settings) (wanted : Key) :
    (settings.put key value).find wanted =
      if key.key = some wanted then some value else settings.find wanted := by
  induction settings with
  | nil =>
      unfold Settings.find
      rw [Settings.put, List.find?_singleton]
      split <;> simp_all
  | cons head tail ih =>
      rcases head with ⟨own, old⟩
      unfold Settings.find at ih ⊢
      rw [Settings.put]
      by_cases same : own.key = key.key
      · rw [if_pos same, List.find?_cons, List.find?_cons, same]
        split <;> simp_all
      · rw [if_neg same, List.find?_cons, List.find?_cons]
        by_cases here : own.key = some wanted
        · have other : ¬ key.key = some wanted := fun found => same (here.trans found.symm)
          simp [here, other]
        · simp only [decide_eq_false here]
          exact ih

private theorem mergeFields_foldl (fields : Dict) (settings : Settings) :
    settings.mergeFields fields =
      (pairs (.obj fields)).foldl (fun settings pair => settings.put pair.1 pair.2) settings := by
  induction fields generalizing settings with
  | nil => rfl
  | cons head tail ih => exact ih _

theorem mergePairs_foldl (items : List Json) (settings : Settings)
    (done : (settings.mergePairs items).2 = true) :
    (settings.mergePairs items).1 =
      (pairs (.arr items)).foldl (fun settings pair => settings.put pair.1 pair.2) settings := by
  induction items generalizing settings with
  | nil => rfl
  | cons head tail ih =>
      have shape : pairs (.arr (head :: tail)) =
          (Settings.pairOf head).toList ++ pairs (.arr tail) := by
        change (head :: tail).filterMap Settings.pairOf = _ ++ tail.filterMap Settings.pairOf
        rw [List.filterMap_cons]
        cases Settings.pairOf head <;> rfl
      unfold Settings.mergePairs at done ⊢
      rw [shape]
      split at done
      · rename_i key value pair
        split at done
        · rename_i hashable
          simp only [pair, hashable, if_true]
          exact ih _ done
        · cases done
      · cases done

theorem update_foldl (done : (settings.update posted).2 = true) :
    (settings.update posted).1 =
      (pairs posted).foldl (fun settings pair => settings.put pair.1 pair.2) settings := by
  cases posted with
  | obj fields => exact mergeFields_foldl fields settings
  | arr items => exact mergePairs_foldl items settings done
  | _ => rfl

theorem find_foldl (pairs : Settings) (settings : Settings) (wanted : Key) :
    (pairs.foldl (fun settings pair => settings.put pair.1 pair.2) settings).find wanted =
      (Settings.find pairs.reverse wanted).or (settings.find wanted) := by
  induction pairs generalizing settings with
  | nil => rfl
  | cons head tail ih =>
      rw [List.foldl_cons, ih, find_put, List.reverse_cons]
      unfold Settings.find
      rw [List.find?_append, List.find?_singleton]
      cases tail.reverse.find? fun entry => decide (entry.1.key = some wanted) with
      | some entry => rfl
      | none =>
          by_cases own : head.1.key = some wanted
          · simp [own]
          · simp [own]

/-- A setting after a POST: the one that it sets, or else the old one. -/
theorem named_update (done : (settings.update posted).2 = true) (name : String) :
    (settings.update posted).1.named name = (sets posted name).or (settings.named name) := by
  rw [update_foldl done]
  exact find_foldl (pairs posted) settings (.text name)

theorem named_iff : Named settings ↔
    ∀ key ∈ settings.map fun entry => entry.1.key, ∃ name, key = some (.text name) := by
  constructor
  · intro named key member
    rcases List.mem_map.mp member with ⟨entry, listed, rfl⟩
    rcases named entry listed with ⟨name, same⟩
    rw [same]
    exact ⟨name, rfl⟩
  · intro named entry member
    rcases named _ (List.mem_map_of_mem member) with ⟨name, same⟩
    exact ⟨name, key_text same⟩

theorem named_put (key value : Json) (settings : Settings) :
    Named (settings.put key value) ↔ (∃ name, key = .str name) ∧ Named settings := by
  rw [named_iff, named_iff]
  constructor
  · intro named
    constructor
    · rcases named key.key ((put_keys key value settings key.key).mpr (.inl rfl)) with ⟨name, same⟩
      exact ⟨name, key_text same⟩
    · intro other member
      exact named other ((put_keys key value settings other).mpr (.inr member))
  · rintro ⟨⟨name, rfl⟩, named⟩ other member
    rcases (put_keys _ value settings other).mp member with rfl | kept
    · exact ⟨name, rfl⟩
    · exact named other kept

theorem named_foldl (pairs settings : Settings) :
    Named (pairs.foldl (fun settings pair => settings.put pair.1 pair.2) settings) ↔
      Named pairs ∧ Named settings := by
  induction pairs generalizing settings with
  | nil => simp [Named]
  | cons head tail ih =>
      rw [List.foldl_cons, ih, named_put]
      unfold Named
      rw [List.forall_mem_cons]
      tauto

theorem checkConfig_ok : checkConfig py settings = .ok () ↔
    (∀ name ∈ required, (settings.named name).isSome = true) ∧
      (∃ coin rest, settings.named "coins" = some (.obj (coin :: rest))) ∧
        ∃ fields, settings.named "segmentation" = some (.obj fields) ∧
          segmentationInvalid py fields = .ok false := by
  have complete : required.filter (fun name => (settings.named name).isNone) = [] ↔
      ∀ name ∈ required, (settings.named name).isSome = true := by
    rw [List.filter_eq_nil_iff]
    simp only [Bool.not_eq_true, Option.isNone_eq_false_iff]
  unfold checkConfig
  simp only
  rw [← complete]
  split
  · rename_i missing
    simp [missing]
  · rename_i present
    have present := not_not.mp present
    split
    · rename_i coin rest coins
      split
      · rename_i fields segmentation
        split
        · rename_i valid
          simp [present, coins, segmentation, valid]
        · rename_i invalid
          simp [present, coins, segmentation, invalid]
        · rename_i raised
          simp [present, coins, segmentation, raised]
      · rename_i other
        simp only [reduceCtorEq, false_iff, not_and]
        rintro - - ⟨fields, same, -⟩
        exact other fields same
    · rename_i other
      simp only [reduceCtorEq, false_iff, not_and]
      rintro - ⟨coin, rest, same⟩
      exact absurd same (other coin rest)

/-- A start takes the configuration after a POST exactly where it takes what the POST sets. -/
theorem restartable_iff (running : checkConfig py settings = .ok ()) (named : Named settings)
    (done : (settings.update posted).2 = true) :
    Named (settings.update posted).1 ∧ checkConfig py (settings.update posted).1 = .ok () ↔
      Restartable py posted := by
  rcases checkConfig_ok.mp running with ⟨complete, oldCoins, oldSegmentation⟩
  rw [update_foldl done, named_foldl, ← update_foldl done, checkConfig_ok]
  simp only [named_update done]
  constructor
  · rintro ⟨⟨keys, -⟩, -, coins, segmentation⟩
    refine ⟨keys, ?_, ?_⟩
    · intro value set
      rw [set, Option.some_or] at coins
      rcases coins with ⟨coin, rest, same⟩
      exact ⟨coin, rest, Option.some.inj same⟩
    · intro value set
      rw [set, Option.some_or] at segmentation
      rcases segmentation with ⟨fields, same, valid⟩
      exact ⟨fields, Option.some.inj same, valid⟩
  · intro restartable
    refine ⟨⟨restartable.keys, named⟩, ?_, ?_, ?_⟩
    · intro name member
      rw [Option.isSome_or, complete name member, Bool.or_true]
    · cases set : sets posted "coins" with
      | none => exact oldCoins
      | some value =>
          rcases restartable.coins value set with ⟨coin, rest, rfl⟩
          exact ⟨coin, rest, rfl⟩
    · cases set : sets posted "segmentation" with
      | none => exact oldSegmentation
      | some value =>
          rcases restartable.segmentation value set with ⟨fields, rfl, valid⟩
          exact ⟨fields, rfl, valid⟩

/-- The next start loads what a POST has saved, and as it was saved, exactly where the POST sets
string keys, coins and a segmentation as a start asks for them. -/
theorem saved_restarts_iff (py : Interpreter) {start body file : List Char}
    {settings after : Settings} {writes : Bool}
    (running : loadConfig py (some start) = .ok settings) (received : loads py.bounds body = .ok posted)
    (saved : handleConfig py settings body writes = (after, some file)) :
    (∃ loaded, loadConfig py (some file) = .ok loaded ∧ loaded.Equal after) ↔
      Restartable py posted := by
  unfold handleConfig at saved
  rw [received] at saved
  simp only [Prod.mk.injEq] at saved
  rcases saved with ⟨rfl, written⟩
  split at written
  case isFalse => cases written
  rename_i done
  rw [Bool.and_eq_true] at done
  cases written
  rcases loadConfig_holds running with ⟨named, nesting, deep, holds⟩
  have checked : checkConfig py settings = .ok () := by
    rcases loadConfig_ok.mp running with ⟨fields, -, checked, rfl⟩
    exact checked
  have fits := loads_fits received
  rw [deep] at fits
  have holds' := update_holds fits holds
  rw [← restartable_iff checked named done.1]
  constructor
  · rintro ⟨loaded, restarted, equal⟩
    have named' := named_of_equal (loadConfig_holds restarted).1 holds' equal
    rcases loads_dumpConfig deep named' holds' with ⟨fields, read, same⟩
    rcases loadConfig_ok.mp restarted with ⟨fields', read', checked', -⟩
    rw [read] at read'
    cases read'
    rw [same] at checked'
    exact ⟨named', checked'⟩
  · rintro ⟨named', checked'⟩
    rcases loads_dumpConfig deep named' holds' with ⟨fields, read, same⟩
    rw [← same] at checked'
    refine ⟨Settings.ofDict fields, loadConfig_ok.mpr ⟨fields, read, checked', rfl⟩, ?_⟩
    rw [same]
    exact equal_refl holds'

end Posts

section Samples

def samplePython : Interpreter where
  bounds := { nesting := 8 }
  conv := { str _ := "", float _ := none, int _ := none, error name _ := name }
  decodeError _ := "Expecting value"

def sampleConfig : Dict :=
  [("network", .str "stagenet"), ("tep_host", .str "0.0.0.0"), ("tep_port", .int 8765),
    ("api_port", .int 9000), ("coins", .obj [("XMR", .obj [("enabled", .bool true)])]),
    ("segmentation", .obj [("nonce_segment_size", .int 500000)])]

def sampleFile : List Char := dumpConfig (Settings.ofDict sampleConfig)

def smallerSegments : Json := .obj [("segmentation", .obj [("nonce_segment_size", .int 1000)])]

def noCoins : Json := .obj [("coins", .obj [])]

set_option maxRecDepth 4000 in
theorem sample_running :
    loadConfig samplePython (some sampleFile) = .ok (Settings.ofDict sampleConfig) := by rfl

theorem smallerSegments_restarts :
    (∃ loaded, loadConfig samplePython
        (some (dumpConfig ((Settings.ofDict sampleConfig).update smallerSegments).1)) = .ok loaded ∧
      loaded.Equal ((Settings.ofDict sampleConfig).update smallerSegments).1) ↔
        Restartable samplePython smallerSegments := by
  have received : loads samplePython.bounds (write smallerSegments) = .ok smallerSegments := by rfl
  have saved : handleConfig samplePython (Settings.ofDict sampleConfig) (write smallerSegments) true =
      (((Settings.ofDict sampleConfig).update smallerSegments).1,
        some (dumpConfig ((Settings.ofDict sampleConfig).update smallerSegments).1)) := by rfl
  exact saved_restarts_iff samplePython sample_running received saved

set_option maxRecDepth 4000 in
/-- The POST of no coins is saved, and the next start refuses the file. -/
theorem noCoins_refused : ∃ start body file settings after,
    loadConfig samplePython (some start) = .ok settings ∧
      handleConfig samplePython settings body true = (after, some file) ∧
      loadConfig samplePython (some file) = .error (invalid "coins must be a non-empty object") := by
  refine ⟨sampleFile, write noCoins, _, _, _, sample_running, rfl, ?_⟩
  rfl

end Samples

end HashBurst.Master
