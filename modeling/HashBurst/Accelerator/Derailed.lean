import HashBurst.Accelerator.Normalize

namespace HashBurst.Accelerator

open Lib Lib.Py

section Written

variable {digits : Nat}

theorem Json.parts {motive : Json → Prop} (null : motive .null) (bool : ∀ value, motive (.bool value))
    (int : ∀ value, motive (.int value)) (float : ∀ value, motive (.float value))
    (str : ∀ text, motive (.str text))
    (arr : ∀ items, (∀ item ∈ items, motive item) → motive (.arr items))
    (obj : ∀ fields : Dict, (∀ field ∈ fields, motive field.2) → motive (.obj fields))
    (value : Json) : motive value :=
  Json.rec (motive_1 := motive) (motive_2 := fun items => ∀ item ∈ items, motive item)
    (motive_3 := fun fields => ∀ field ∈ fields, motive field.2)
    (motive_4 := fun field => motive field.2) null bool int float str arr obj
    (fun _ none => absurd none List.not_mem_nil)
    (fun _ _ own others item member => by
      rcases List.mem_cons.mp member with rfl | later
      · exact own
      · exact others item later)
    (fun _ none => absurd none List.not_mem_nil)
    (fun _ _ own others field member => by
      rcases List.mem_cons.mp member with rfl | later
      · exact own
      · exact others field later)
    (fun _ _ own => own) value

theorem bind_ok {ε α β : Type} {first : Except ε α} {next : α → Except ε β} {result : β} :
    first >>= next = .ok result ↔ ∃ value, first = .ok value ∧ next value = .ok result := by
  cases first with
  | error fault =>
      constructor
      · intro impossible
        cases impossible
      · rintro ⟨value, impossible, -⟩
        cases impossible
  | ok value =>
      constructor
      · intro passed
        exact ⟨value, rfl, passed⟩
      · rintro ⟨own, same, passed⟩
        cases same
        exact passed

theorem dumpItems_ok {room : Nat} {items : List Json} :
    dumpItems digits room items = .ok () ↔ ∀ item ∈ items, dump digits room item = .ok () := by
  induction items with
  | nil => simp [dumpItems]
  | cons item rest ih =>
      rw [dumpItems, bind_ok, List.forall_mem_cons, ← ih]
      constructor
      · rintro ⟨⟨⟩, own, others⟩
        exact ⟨own, others⟩
      · rintro ⟨own, others⟩
        exact ⟨(), own, others⟩

theorem dumpFields_ok {room : Nat} {fields : Dict} :
    dumpFields digits room fields = .ok () ↔
      ∀ field ∈ fields, dump digits room field.2 = .ok () := by
  induction fields with
  | nil => simp [dumpFields]
  | cons field rest ih =>
      rw [dumpFields, bind_ok, List.forall_mem_cons, ← ih]
      constructor
      · rintro ⟨⟨⟩, own, others⟩
        exact ⟨own, others⟩
      · rintro ⟨own, others⟩
        exact ⟨(), own, others⟩

theorem dump_arr {room : Nat} {items : List Json} : dump digits room (.arr items) = .ok () ↔
    0 < room ∧ ∀ item ∈ items, dump digits (room - 1) item = .ok () := by
  rw [dump]
  by_cases full : room = 0
  · rw [if_pos full]
    constructor
    · intro impossible
      cases impossible
    · rintro ⟨above, -⟩
      omega
  · rw [if_neg full, dumpItems_ok]
    constructor
    · intro each
      exact ⟨by omega, each⟩
    · rintro ⟨-, each⟩
      exact each

theorem dump_obj {room : Nat} {fields : Dict} : dump digits room (.obj fields) = .ok () ↔
    0 < room ∧ ∀ field ∈ fields, dump digits (room - 1) field.2 = .ok () := by
  rw [dump]
  by_cases full : room = 0
  · rw [if_pos full]
    constructor
    · intro impossible
      cases impossible
    · rintro ⟨above, -⟩
      omega
  · rw [if_neg full, dumpFields_ok]
    constructor
    · intro each
      exact ⟨by omega, each⟩
    · rintro ⟨-, each⟩
      exact each

theorem dump_mono {value : Json} : ∀ {room more : Nat}, room ≤ more →
    dump digits room value = .ok () → dump digits more value = .ok () := by
  induction value using Json.parts with
  | arr items ih =>
      intro room more below written
      rw [dump_arr] at written ⊢
      refine ⟨by omega, ?_⟩
      intro item member
      exact ih item member (by omega) (written.2 item member)
  | obj fields ih =>
      intro room more below written
      rw [dump_obj] at written ⊢
      refine ⟨by omega, ?_⟩
      intro field member
      exact ih field member (by omega) (written.2 field member)
  | int number =>
      intro room more below written
      exact written
  | _ =>
      intros
      rfl

theorem dump_sortKeys {value : Json} : ∀ {room : Nat},
    dump digits room (JsonText.sortKeys value) = .ok () ↔ dump digits room value = .ok () := by
  induction value using Json.parts with
  | arr items ih =>
      intro room
      rw [JsonText.sortKeys, JsonText.sortItems_eq, dump_arr, dump_arr, List.forall_mem_map]
      apply and_congr_right
      intro above
      constructor
      · intro each item member
        exact (ih item member).mp (each item member)
      · intro each item member
        exact (ih item member).mpr (each item member)
  | obj fields ih =>
      intro room
      rw [JsonText.sortKeys, dump_obj, dump_obj]
      apply and_congr_right
      intro above
      simp only [List.mem_insertionSort, JsonText.sortValues_eq, List.forall_mem_map]
      constructor
      · intro each field member
        exact (ih field member).mp (each field member)
      · intro each field member
        exact (ih field member).mpr (each field member)
  | _ =>
      intros
      rfl

end Written

section Parts

variable {py : Python} {fields : Dict} {items : List Json} {value : Json} {name : String}

/-- `canonical` and `str` write the value. -/
def Written (py : Python) (value : Json) : Prop := dump py.digits py.nesting value = .ok ()

theorem Written.item (written : Written py (.arr items)) (member : value ∈ items) :
    Written py value :=
  dump_mono (by omega) ((dump_arr.mp written).2 value member)

theorem Written.field (written : Written py (.obj fields)) (listed : fields.lookup name = some value) :
    Written py value := by
  have member : (name, value) ∈ fields := by
    rcases List.lookup_eq_some_iff.mp listed with ⟨front, back, same, -⟩
    rw [same]
    exact List.mem_append_right _ List.mem_cons_self
  exact dump_mono (by omega) ((dump_obj.mp written).2 _ member)

theorem Written.get (written : Written py (.obj fields)) : Written py (Dict.get fields name) := by
  unfold Dict.get Dict.getD
  cases listed : fields.lookup name with
  | none => rfl
  | some value => exact written.field listed

theorem toText_written (written : Written py value) : ∃ text, toText py value = .ok text := by
  cases value with
  | str text => exact ⟨text, rfl⟩
  | _ => exact ⟨py.conv.str _, bind_ok.mpr ⟨(), written, rfl⟩⟩

end Parts

section Escapes

variable {α β : Type} {first : Except Fault α} {next : α → Except Fault β}

/-- An exception that `collect` does not catch. -/
def Escapes (result : Except Fault α) : Prop := ∃ fault, result = .error fault ∧ fault.isCaught = false

theorem escapes_ok {value : α} : ¬Escapes (.ok value : Except Fault α) := by
  rintro ⟨fault, impossible, -⟩
  cases impossible

theorem escapes_error {fault : Fault} :
    Escapes (.error fault : Except Fault α) ↔ fault.isCaught = false := by
  constructor
  · rintro ⟨own, same, escapes⟩
    cases same
    exact escapes
  · intro escapes
    exact ⟨fault, rfl, escapes⟩

theorem caught_tame {fault : Fault} (caught : fault.isCaught = true) :
    ¬Escapes (.error fault : Except Fault α) := by
  rw [escapes_error, caught]
  decide

theorem escapes_bind : Escapes (first >>= next) ↔
    Escapes first ∨ ∃ value, first = .ok value ∧ Escapes (next value) := by
  cases first with
  | error fault =>
      change Escapes (.error fault) ↔ _
      rw [escapes_error, escapes_error]
      constructor
      · intro escapes
        exact .inl escapes
      · rintro (escapes | ⟨value, impossible, -⟩)
        · exact escapes
        · cases impossible
  | ok value =>
      change Escapes (next value) ↔ _
      constructor
      · intro escapes
        exact .inr ⟨value, rfl, escapes⟩
      · rintro (impossible | ⟨own, same, escapes⟩)
        · exact absurd impossible escapes_ok
        · cases same
          exact escapes

theorem escapes_after (tame : ¬Escapes first) :
    Escapes (first >>= next) ↔ ∃ value, first = .ok value ∧ Escapes (next value) := by
  rw [escapes_bind, or_iff_right tame]

theorem require_tame {condition : Bool} {text : String} : ¬Escapes (require condition text) := by
  unfold require
  cases condition with
  | true => exact escapes_ok
  | false => exact caught_tame rfl

theorem require_ok {condition : Bool} {text : String} {done : Unit} :
    require condition text = .ok done ↔ condition = true := by
  unfold require
  cases condition with
  | true => simp
  | false => simp

theorem subscript_tame {value : Json} {name : String} : ¬Escapes (subscript value name) := by
  unfold subscript
  cases value with
  | obj fields =>
      dsimp only
      cases fields.lookup name with
      | some own => exact escapes_ok
      | none => exact caught_tame rfl
  | _ => exact caught_tame rfl

theorem subscript_ok {fields : Dict} {name : String} {value : Json} :
    subscript (.obj fields) name = .ok value ↔ fields.lookup name = some value := by
  unfold subscript
  dsimp only
  cases fields.lookup name with
  | some own => simp
  | none => simp

theorem strings_tame {value : Json} : ¬Escapes (strings value) := by
  unfold strings
  cases value with
  | arr items =>
      dsimp only
      split
      · exact escapes_ok
      · exact caught_tame rfl
  | _ => exact caught_tame rfl

/-- An integer that is infinite as a float. -/
def Huge (value : Json) : Prop := ∃ number, value = .int number ∧ binary64 number = none

theorem number_cases (value : Json) : (∃ read, number value = .ok read) ∧ ¬Huge value ∨
    number value = .error invalidNumber ∧ ¬Huge value ∨ number value = .error .overflow ∧ Huge value := by
  have other (plain : ∀ own, value ≠ .int own) : ¬Huge value := by
    rintro ⟨own, same, -⟩
    exact plain own same
  cases value with
  | int own =>
      unfold number
      dsimp only
      by_cases huge : binary64 own = none
      · rw [if_pos huge]
        exact .inr (.inr ⟨rfl, own, rfl, huge⟩)
      · have small : ¬Huge (.int own) := by
          rintro ⟨other, same, none⟩
          cases same
          exact huge none
        rw [if_neg huge]
        by_cases negative : own < 0
        · rw [if_pos negative]
          exact .inr (.inl ⟨rfl, small⟩)
        · rw [if_neg negative]
          exact .inl ⟨⟨_, rfl⟩, small⟩
  | float own =>
      unfold number
      dsimp only
      by_cases negative : own < 0
      · rw [if_pos negative]
        exact .inr (.inl ⟨rfl, other (by intro own impossible; cases impossible)⟩)
      · rw [if_neg negative]
        exact .inl ⟨⟨_, rfl⟩, other (by intro own impossible; cases impossible)⟩
  | _ => exact .inr (.inl ⟨rfl, other (by intro own impossible; cases impossible)⟩)

theorem number_escapes {value : Json} : Escapes (number value) ↔ Huge value := by
  rcases number_cases value with ⟨⟨read, same⟩, small⟩ | ⟨same, small⟩ | ⟨same, huge⟩
  · rw [same]
    exact iff_of_false escapes_ok small
  · rw [same]
    exact iff_of_false (caught_tame rfl) small
  · rw [same]
    exact iff_of_true (escapes_error.mpr rfl) huge

namespace Number

/-- An integer that no float can be added to. -/
def TooLarge (number : Number) : Prop := ∃ value, number = .int value ∧ binary64 value = none

def IsInt (number : Number) : Prop := ∃ value, number = .int value

/-- A sum of an integer that is too large and of something that is no integer. -/
def Overflows (first second : Number) : Prop :=
  first.TooLarge ∧ ¬second.IsInt ∨ second.TooLarge ∧ ¬first.IsInt

theorem toFloat_escapes {number : Number} : Escapes number.toFloat ↔ number.TooLarge := by
  cases number with
  | int value =>
      unfold toFloat
      dsimp only
      cases near : binary64 value with
      | none =>
          rw [escapes_error]
          exact iff_of_true rfl ⟨value, rfl, near⟩
      | some float =>
          apply iff_of_false escapes_ok
          rintro ⟨own, same, none⟩
          cases same
          rw [near] at none
          cases none
  | float value =>
      apply iff_of_false escapes_ok
      rintro ⟨own, impossible, -⟩
      cases impossible
  | infinite =>
      apply iff_of_false escapes_ok
      rintro ⟨own, impossible, -⟩
      cases impossible

theorem toFloat_ok {number : Number} (small : ¬number.TooLarge) :
    ∃ float, number.toFloat = .ok float := by
  cases converted : number.toFloat with
  | ok float => exact ⟨float, rfl⟩
  | error fault =>
      cases number with
      | int value =>
          unfold toFloat at converted
          dsimp only at converted
          cases near : binary64 value with
          | none => exact absurd ⟨value, rfl, near⟩ small
          | some float =>
              rw [near] at converted
              cases converted
      | float value => cases converted
      | infinite => cases converted

theorem addFloats_escapes {first second : Number} :
    Escapes (do
      let one ← first.toFloat
      let other ← second.toFloat
      .ok (addFloats one other) : Except Fault Number) ↔ first.TooLarge ∨ second.TooLarge := by
  rw [escapes_bind, toFloat_escapes]
  constructor
  · rintro (large | ⟨one, -, escapes⟩)
    · exact .inl large
    · rcases escapes_bind.mp escapes with large | ⟨other, -, impossible⟩
      · exact .inr (toFloat_escapes.mp large)
      · exact absurd impossible escapes_ok
  · intro either
    by_cases large : first.TooLarge
    · exact .inl large
    · rcases toFloat_ok large with ⟨one, converted⟩
      refine .inr ⟨one, converted, ?_⟩
      exact escapes_bind.mpr (.inl (toFloat_escapes.mpr (either.resolve_left large)))

theorem add_eq_floats {first second : Number} (mixed : ¬(first.IsInt ∧ second.IsInt)) :
    first.add second = (do
      let one ← first.toFloat
      let other ← second.toFloat
      .ok (addFloats one other) : Except Fault Number) := by
  cases first with
  | int one =>
      cases second with
      | int other => exact absurd ⟨⟨one, rfl⟩, ⟨other, rfl⟩⟩ mixed
      | _ => rfl
  | _ => rfl

theorem add_escapes {first second : Number} : Escapes (first.add second) ↔ first.Overflows second := by
  by_cases both : first.IsInt ∧ second.IsInt
  · rcases both with ⟨⟨one, rfl⟩, ⟨other, rfl⟩⟩
    apply iff_of_false
    · exact escapes_ok
    · rintro (⟨-, mixed⟩ | ⟨-, mixed⟩)
      · exact mixed ⟨other, rfl⟩
      · exact mixed ⟨one, rfl⟩
  · rw [add_eq_floats both, addFloats_escapes]
    constructor
    · rintro (large | large)
      · rcases large with ⟨value, same, none⟩
        exact .inl ⟨⟨value, same, none⟩, fun other => both ⟨⟨value, same⟩, other⟩⟩
      · rcases large with ⟨value, same, none⟩
        exact .inr ⟨⟨value, same, none⟩, fun other => both ⟨other, ⟨value, same⟩⟩⟩
    · rintro (⟨large, -⟩ | ⟨large, -⟩)
      · exact .inl large
      · exact .inr large

end Number

end Escapes

section Counters

/-- The numbers of a counter come to one that is too large, or to a sum that cannot be made. -/
def SumDerails (total : Number) : List Json → Prop
  | [] => False
  | value :: rest => Huge value ∨ ∃ next, number value = .ok next ∧
      (total.Overflows next ∨ ∃ sum, total.add next = .ok sum ∧ SumDerails sum rest)

theorem sumNumbers_escapes {total : Number} {values : List Json} :
    Escapes (sumNumbers total values) ↔ SumDerails total values := by
  induction values generalizing total with
  | nil => exact iff_of_false escapes_ok not_false
  | cons value rest ih =>
      rw [sumNumbers, escapes_bind, number_escapes, SumDerails]
      apply or_congr_right
      apply exists_congr
      intro next
      apply and_congr_right
      intro read
      rw [escapes_bind, Number.add_escapes]
      apply or_congr_right
      apply exists_congr
      intro sum
      rw [ih]

/-- The share counter of a miner cannot be summed up and added. -/
def SharesDerail (total : Number) (miner : Dict) (field : String) : Prop :=
  ∃ value rest, Dict.get miner field = .arr (value :: rest) ∧
    (SumDerails (.int 0) (value :: rest) ∨
      ∃ sum, sumNumbers (.int 0) (value :: rest) = .ok sum ∧ total.Overflows sum)

theorem addShares_escapes {total : Number} {miner : Dict} {field : String} :
    Escapes (addShares total miner field) ↔ SharesDerail total miner field := by
  unfold addShares readShares SharesDerail
  cases Dict.get miner field with
  | arr values =>
      cases values with
      | nil =>
          apply iff_of_false
          · exact caught_tame rfl
          · rintro ⟨value, rest, impossible, -⟩
            cases impossible
      | cons value rest =>
          dsimp only
          rw [escapes_bind, sumNumbers_escapes]
          constructor
          · rintro (derails | ⟨sum, summed, escapes⟩)
            · exact ⟨value, rest, rfl, .inl derails⟩
            · exact ⟨value, rest, rfl, .inr ⟨sum, summed, Number.add_escapes.mp escapes⟩⟩
          · rintro ⟨own, others, same, derails | ⟨sum, summed, overflows⟩⟩
            · cases same
              exact .inl derails
            · cases same
              exact .inr ⟨sum, summed, Number.add_escapes.mpr overflows⟩
  | _ =>
      apply iff_of_false
      · exact caught_tame rfl
      · rintro ⟨value, rest, impossible, -⟩
        cases impossible

/-- The sums of a miner, in the order in which they are made. -/
def TotalsDerail (telemetry : Telemetry) (miner : Dict) : Prop :=
  ∃ price, miner.lookup "BTC/day" = some price ∧
    (Huge price ∨ ∃ rate, number price = .ok rate ∧
      (telemetry.revenue.Overflows rate ∨ ∃ revenue, telemetry.revenue.add rate = .ok revenue ∧
        (SharesDerail telemetry.accepted miner "Accepted" ∨
          ∃ accepted, addShares telemetry.accepted miner "Accepted" = .ok accepted ∧
            (SharesDerail telemetry.rejected miner "Rejected" ∨
              ∃ rejected, addShares telemetry.rejected miner "Rejected" = .ok rejected ∧
                SharesDerail rejected miner "Stale"))))

theorem addTotals_escapes {telemetry : Telemetry} {miner : Dict} :
    Escapes (addTotals telemetry miner) ↔ TotalsDerail telemetry miner := by
  unfold addTotals TotalsDerail
  rw [escapes_after subscript_tame]
  apply exists_congr
  intro price
  rw [subscript_ok]
  apply and_congr_right
  intro listed
  rw [escapes_bind, number_escapes]
  apply or_congr_right
  apply exists_congr
  intro rate
  apply and_congr_right
  intro read
  rw [escapes_bind, Number.add_escapes]
  apply or_congr_right
  apply exists_congr
  intro revenue
  apply and_congr_right
  intro added
  rw [escapes_bind, addShares_escapes]
  apply or_congr_right
  apply exists_congr
  intro accepted
  apply and_congr_right
  intro counted
  rw [escapes_bind, addShares_escapes]
  apply or_congr_right
  apply exists_congr
  intro rejected
  apply and_congr_right
  intro refused
  rw [escapes_bind, addShares_escapes]
  constructor
  · rintro (derails | ⟨last, -, impossible⟩)
    · exact derails
    · exact absurd impossible escapes_ok
  · intro derails
    exact .inl derails

end Counters

section Devices

variable {py : Python} {temp : Number} {miner : Dict}

theorem measure_escapes {reading : Json} : Escapes (measure temp reading) ↔ Huge reading := by
  unfold measure
  rcases number_cases reading with ⟨⟨read, same⟩, small⟩ | ⟨same, small⟩ | ⟨same, huge⟩
  · rw [same]
    exact iff_of_false escapes_ok small
  · rw [same]
    exact iff_of_false escapes_ok small
  · rw [same]
    exact iff_of_true (escapes_error.mpr rfl) huge

theorem measure_ok {reading : Json} (small : ¬Huge reading) :
    ∃ next, measure temp reading = .ok next := by
  unfold measure
  rcases number_cases reading with ⟨⟨read, same⟩, -⟩ | ⟨same, -⟩ | ⟨same, huge⟩
  · rw [same]
    exact ⟨_, rfl⟩
  · rw [same]
    exact ⟨temp, rfl⟩
  · exact absurd huge small

theorem toText_tame {value : Json} (written : Written py value) : ¬Escapes (toText py value) := by
  rcases toText_written written with ⟨text, same⟩
  rw [same]
  exact escapes_ok

def Slotted (device : Json) : Prop :=
  ∃ fields, device = .obj fields ∧ (fields.lookup "Id").isSome = true ∧
    (fields.lookup "Name").isSome = true

def DeviceDerails (device : Json) : Prop :=
  ∃ fields, device = .obj fields ∧ (fields.lookup "Id").isSome = true ∧
    (fields.lookup "Name").isSome = true ∧ Huge (Dict.get fields "Temp")

theorem readDevice_escapes {device : Json} (written : Written py device) :
    Escapes (readDevice py temp device) ↔ DeviceDerails device := by
  unfold readDevice
  rw [escapes_after subscript_tame]
  cases device with
  | obj fields =>
      constructor
      · rintro ⟨id, one, escapes⟩
        have found := subscript_ok.mp one
        rw [escapes_after (toText_tame (written.field found))] at escapes
        rcases escapes with ⟨text, -, escapes⟩
        rw [escapes_after subscript_tame] at escapes
        rcases escapes with ⟨name, two, escapes⟩
        have named := subscript_ok.mp two
        rw [escapes_after (toText_tame (written.field named))] at escapes
        rcases escapes with ⟨other, -, escapes⟩
        rcases escapes_bind.mp escapes with measured | ⟨own, -, impossible⟩
        · refine ⟨fields, rfl, ?_, ?_, measure_escapes.mp measured⟩
          · rw [found]
            rfl
          · rw [named]
            rfl
        · exact absurd impossible escapes_ok
      · rintro ⟨own, same, first, second, huge⟩
        cases same
        rcases Option.isSome_iff_exists.mp first with ⟨id, found⟩
        rcases Option.isSome_iff_exists.mp second with ⟨name, named⟩
        rcases toText_written (written.field found) with ⟨text, one⟩
        rcases toText_written (written.field named) with ⟨other, two⟩
        refine ⟨id, subscript_ok.mpr found, ?_⟩
        apply escapes_bind.mpr
        refine .inr ⟨text, one, ?_⟩
        apply escapes_bind.mpr
        refine .inr ⟨name, subscript_ok.mpr named, ?_⟩
        apply escapes_bind.mpr
        refine .inr ⟨other, two, ?_⟩
        apply escapes_bind.mpr
        exact .inl (measure_escapes.mpr huge)
  | _ =>
      apply iff_of_false
      · rintro ⟨id, impossible, -⟩
        cases impossible
      · rintro ⟨fields, impossible, -⟩
        cases impossible

theorem readDevice_ok {device : Json} (written : Written py device) :
    (∃ result, readDevice py temp device = .ok result) ↔
      Slotted device ∧ ¬DeviceDerails device := by
  constructor
  · rintro ⟨result, read⟩
    constructor
    · simp only [readDevice, bind_ok] at read
      rcases read with ⟨id, one, text, -, name, two, -⟩
      cases device with
      | obj fields =>
          refine ⟨fields, rfl, ?_, ?_⟩
          · rw [subscript_ok.mp one]
            rfl
          · rw [subscript_ok.mp two]
            rfl
      | _ => cases one
    · intro derails
      have escapes : Escapes (readDevice py temp device) := (readDevice_escapes written).mpr derails
      rw [read] at escapes
      exact escapes_ok escapes
  · rintro ⟨⟨fields, same, first, second⟩, tame⟩
    cases same
    rcases Option.isSome_iff_exists.mp first with ⟨id, found⟩
    rcases Option.isSome_iff_exists.mp second with ⟨name, named⟩
    rcases toText_written (written.field found) with ⟨text, one⟩
    rcases toText_written (written.field named) with ⟨other, two⟩
    have small : ¬Huge (Dict.get fields "Temp") :=
      fun huge => tame ⟨fields, rfl, first, second, huge⟩
    rcases @measure_ok temp _ small with ⟨next, measured⟩
    refine ⟨(.obj [("id", .str text), ("name", .str other)], next), ?_⟩
    simp only [readDevice, bind_ok]
    exact ⟨id, subscript_ok.mpr found, text, one, name, subscript_ok.mpr named, other, two, next,
      measured, rfl⟩

/-- A temperature is too large, and every device before it has its slot. -/
def DevicesDerail : List Json → Prop
  | [] => False
  | device :: rest => DeviceDerails device ∨ Slotted device ∧ DevicesDerail rest

theorem readDevices_escapes {devices slots : List Json} (written : ∀ device ∈ devices, Written py device) :
    Escapes (readDevices py slots temp devices) ↔ DevicesDerail devices := by
  induction devices generalizing slots temp with
  | nil => exact iff_of_false escapes_ok not_false
  | cons device rest ih =>
      rw [List.forall_mem_cons] at written
      rw [readDevices, escapes_bind, readDevice_escapes written.1, DevicesDerail]
      by_cases derails : DeviceDerails device
      · exact iff_of_true (.inl derails) (.inl derails)
      · rw [or_iff_right derails, or_iff_right derails]
        constructor
        · rintro ⟨result, read, escapes⟩
          have slotted := (readDevice_ok written.1).mp ⟨result, read⟩
          exact ⟨slotted.1, (ih written.2).mp escapes⟩
        · rintro ⟨slotted, later⟩
          have able : ∃ result, readDevice py temp device = .ok result :=
            (readDevice_ok written.1).mpr ⟨slotted, derails⟩
          rcases able with ⟨result, read⟩
          exact ⟨result, read, (ih written.2).mpr later⟩

theorem texts_run {devices : List Json} (texts : ∀ device ∈ devices, ∃ text, device = .str text) :
    ¬DevicesDerail devices := by
  cases devices with
  | nil => exact not_false
  | cons device rest =>
      rcases texts device List.mem_cons_self with ⟨text, rfl⟩
      rintro (⟨fields, impossible, -⟩ | ⟨⟨fields, impossible, -⟩, -⟩)
      · cases impossible
      · cases impossible

end Devices

section Miners

variable {py : Python} {temp : Number} {miner : Dict} {telemetry : Telemetry}

private theorem deviceItems_tame {devices : Json} : ¬Escapes (deviceItems devices) := by
  cases devices with
  | arr items => exact escapes_ok
  | obj fields => exact escapes_ok
  | str text => exact escapes_ok
  | _ => exact caught_tame rfl

/-- The devices of a miner, where they are a list. -/
def InventoryDerails (miner : Dict) : Prop :=
  ∃ devices, Dict.getD miner "Devices" (.arr []) = .arr devices ∧ DevicesDerail devices

theorem Written.devices (written : Written py (.obj miner)) {devices : List Json}
    (listed : Dict.getD miner "Devices" (.arr []) = .arr devices) :
    ∀ device ∈ devices, Written py device := by
  unfold Dict.getD at listed
  cases found : miner.lookup "Devices" with
  | none =>
      rw [found] at listed
      cases listed
      exact fun _ none => absurd none List.not_mem_nil
  | some value =>
      rw [found] at listed
      have own := written.field found
      rw [show value = .arr devices from listed] at own
      exact fun device member => own.item member

theorem inventory_after {devices : List Json} :
    Escapes (do
      let (slots, temp) ← readDevices py [] temp devices
      require (!slots.isEmpty) "missing device inventory"
      require temp.isPositive "missing measured device temperature"
      .ok (slots, temp) : Except Fault (List Json × Number)) ↔
        Escapes (readDevices py [] temp devices) := by
  rw [escapes_bind]
  constructor
  · rintro (escapes | ⟨pair, -, escapes⟩)
    · exact escapes
    · rw [escapes_after require_tame] at escapes
      rcases escapes with ⟨first, -, escapes⟩
      rw [escapes_after require_tame] at escapes
      rcases escapes with ⟨second, -, impossible⟩
      exact absurd impossible escapes_ok
  · intro escapes
    exact .inl escapes

theorem readInventory_escapes (written : Written py (.obj miner)) :
    Escapes (readInventory py temp miner) ↔ InventoryDerails miner := by
  unfold readInventory InventoryDerails
  rw [escapes_after deviceItems_tame]
  simp only [inventory_after]
  cases listed : Dict.getD miner "Devices" (.arr []) with
  | arr devices =>
      have each := written.devices listed
      constructor
      · rintro ⟨own, same, escapes⟩
        cases same
        exact ⟨devices, rfl, (readDevices_escapes each).mp escapes⟩
      · rintro ⟨own, same, derails⟩
        cases same
        exact ⟨devices, rfl, (readDevices_escapes each).mpr derails⟩
  | obj fields =>
      apply iff_of_false
      · rintro ⟨own, same, escapes⟩
        cases same
        have texts : ∀ device ∈ fields.map fun field => Json.str field.1,
            ∃ text, device = .str text := by
          intro device member
          rcases List.mem_map.mp member with ⟨field, -, same⟩
          exact ⟨field.1, same.symm⟩
        have each : ∀ device ∈ fields.map fun field => Json.str field.1, Written py device := by
          intro device member
          rcases texts device member with ⟨text, rfl⟩
          rfl
        exact texts_run texts ((readDevices_escapes each).mp escapes)
      · rintro ⟨devices, impossible, -⟩
        cases impossible
  | str text =>
      apply iff_of_false
      · rintro ⟨own, same, escapes⟩
        cases same
        have texts : ∀ device ∈ text.toList.map fun c => Json.str (String.ofList [c]),
            ∃ text, device = .str text := by
          intro device member
          rcases List.mem_map.mp member with ⟨c, -, same⟩
          exact ⟨String.ofList [c], same.symm⟩
        have each : ∀ device ∈ text.toList.map fun c => Json.str (String.ofList [c]),
            Written py device := by
          intro device member
          rcases texts device member with ⟨text, rfl⟩
          rfl
        exact texts_run texts ((readDevices_escapes each).mp escapes)
      · rintro ⟨devices, impossible, -⟩
        cases impossible
  | _ =>
      apply iff_of_false
      · rintro ⟨own, impossible, -⟩
        cases impossible
      · rintro ⟨devices, impossible, -⟩
        cases impossible

theorem describe_tame {slots : List Json} (written : Written py (.obj miner)) :
    ¬Escapes (describe py miner slots) := by
  unfold describe
  rw [escapes_after subscript_tame]
  rintro ⟨name, found, escapes⟩
  rw [escapes_after (toText_tame (written.field (subscript_ok.mp found)))] at escapes
  rcases escapes with ⟨text, -, escapes⟩
  rw [escapes_after subscript_tame] at escapes
  rcases escapes with ⟨version, named, escapes⟩
  rw [escapes_after (toText_tame (written.field (subscript_ok.mp named)))] at escapes
  rcases escapes with ⟨other, -, escapes⟩
  rw [escapes_after subscript_tame] at escapes
  rcases escapes with ⟨algorithm, -, escapes⟩
  rw [escapes_after strings_tame] at escapes
  rcases escapes with ⟨algorithms, -, escapes⟩
  rw [escapes_after subscript_tame] at escapes
  rcases escapes with ⟨pool, -, escapes⟩
  rw [escapes_after strings_tame] at escapes
  rcases escapes with ⟨pools, -, impossible⟩
  exact escapes_ok impossible

/-- An item of `data` that is no object, or a miner with numbers that derail. -/
def MinerDerails (py : Python) (telemetry : Telemetry) : Json → Prop
  | .obj miner =>
      ((Dict.get miner "Benchmarking").isFalse && (Dict.get miner "Donator").isFalse) = true ∧
        (InventoryDerails miner ∨ ∃ inventory entry,
          readInventory py telemetry.temp miner = .ok inventory ∧
            describe py miner inventory.1 = .ok entry ∧ TotalsDerail telemetry miner)
  | _ => True

theorem readMiner_escapes {item : Json} (written : Written py item) :
    Escapes (readMiner py telemetry item) ↔ MinerDerails py telemetry item := by
  cases item with
  | obj miner =>
      unfold readMiner MinerDerails
      rw [escapes_after require_tame]
      constructor
      · rintro ⟨passed, checked, escapes⟩
        refine ⟨require_ok.mp checked, ?_⟩
        rcases escapes_bind.mp escapes with derails | ⟨inventory, read, escapes⟩
        · exact .inl ((readInventory_escapes written).mp derails)
        · rw [escapes_after (describe_tame written)] at escapes
          rcases escapes with ⟨entry, described, escapes⟩
          have derails : TotalsDerail { telemetry with
              temp := inventory.2, workload := telemetry.workload ++ [entry] } miner :=
            addTotals_escapes.mp escapes
          exact .inr ⟨inventory, entry, read, described, derails⟩
      · rintro ⟨checked, derails⟩
        refine ⟨(), require_ok.mpr checked, ?_⟩
        apply escapes_bind.mpr
        rcases derails with derails | ⟨inventory, entry, read, described, derails⟩
        · exact .inl ((readInventory_escapes written).mpr derails)
        · refine .inr ⟨inventory, read, ?_⟩
          apply escapes_bind.mpr
          have later : TotalsDerail { telemetry with
              temp := inventory.2, workload := telemetry.workload ++ [entry] } miner := derails
          exact .inr ⟨entry, described, addTotals_escapes.mpr later⟩
  | _ => exact iff_of_true (escapes_error.mpr rfl) trivial

def MinersDerail (py : Python) (telemetry : Telemetry) : List Json → Prop
  | [] => False
  | item :: rest => MinerDerails py telemetry item ∨
      ∃ next, readMiner py telemetry item = .ok next ∧ MinersDerail py next rest

theorem readMiners_escapes {items : List Json} (written : ∀ item ∈ items, Written py item) :
    Escapes (readMiners py telemetry items) ↔ MinersDerail py telemetry items := by
  induction items generalizing telemetry with
  | nil => exact iff_of_false escapes_ok not_false
  | cons item rest ih =>
      rw [List.forall_mem_cons] at written
      rw [readMiners, escapes_bind, readMiner_escapes written.1, MinersDerail]
      apply or_congr_right
      apply exists_congr
      intro next
      rw [ih written.2]

end Miners

section Workers

variable {py : Python} {now maxAge : Int} {worker : Dict} {salt : Bytes}

private theorem checkState_tame {seen : Int} : ¬Escapes (checkState now maxAge worker seen) := by
  unfold checkState
  rw [escapes_after require_tame]
  rintro ⟨passed, -, escapes⟩
  exact require_tame escapes

/-- The time of the sample or the power is too large. -/
def WorkerDerails (now maxAge : Int) (worker : Dict) : Prop :=
  (identityOf worker).all isName = true ∧ ∃ lastseen, worker.lookup "lastseen" = some lastseen ∧
    (Huge lastseen ∨ ∃ seen, number lastseen = .ok seen ∧
      checkState now maxAge worker seen.toInt = .ok () ∧
        ∃ power, worker.lookup "powerdraw" = some power ∧ Huge power)

theorem readWorker_escapes :
    Escapes (readWorker now maxAge worker) ↔ WorkerDerails now maxAge worker := by
  unfold readWorker WorkerDerails
  rw [escapes_after require_tame]
  constructor
  · rintro ⟨passed, named, escapes⟩
    refine ⟨require_ok.mp named, ?_⟩
    rw [escapes_after subscript_tame] at escapes
    rcases escapes with ⟨lastseen, found, escapes⟩
    refine ⟨lastseen, subscript_ok.mp found, ?_⟩
    rcases escapes_bind.mp escapes with huge | ⟨seen, read, escapes⟩
    · exact .inl (number_escapes.mp huge)
    · rw [escapes_after checkState_tame] at escapes
      rcases escapes with ⟨⟨⟩, checked, escapes⟩
      rw [escapes_after subscript_tame] at escapes
      rcases escapes with ⟨power, listed, escapes⟩
      refine .inr ⟨seen, read, checked, power, subscript_ok.mp listed, ?_⟩
      rcases escapes_bind.mp escapes with huge | ⟨watts, -, escapes⟩
      · exact number_escapes.mp huge
      · rw [escapes_after require_tame] at escapes
        rcases escapes with ⟨positive, -, impossible⟩
        exact absurd impossible escapes_ok
  · rintro ⟨named, lastseen, found, derails⟩
    refine ⟨(), require_ok.mpr named, ?_⟩
    apply escapes_bind.mpr
    refine .inr ⟨lastseen, subscript_ok.mpr found, ?_⟩
    apply escapes_bind.mpr
    rcases derails with huge | ⟨seen, read, checked, power, listed, huge⟩
    · exact .inl (number_escapes.mpr huge)
    · refine .inr ⟨seen, read, ?_⟩
      apply escapes_bind.mpr
      refine .inr ⟨(), checked, ?_⟩
      apply escapes_bind.mpr
      refine .inr ⟨power, subscript_ok.mpr listed, ?_⟩
      apply escapes_bind.mpr
      exact .inl (number_escapes.mpr huge)

private theorem readData_tame : ¬Escapes (readData worker) := by
  unfold readData
  split
  · exact escapes_ok
  · exact caught_tame rfl

theorem readData_written (written : Written py (.obj worker)) {data : List Json}
    (read : readData worker = .ok data) : ∀ item ∈ data, Written py item := by
  unfold readData at read
  have own : Written py (Dict.get worker "data") := written.get
  split at read
  · rename_i first rest listed
    cases read
    rw [listed] at own
    exact fun item member => own.item member
  · cases read

theorem rowOf_ok {seen : Int} {watts : Number} {telemetry : Telemetry}
    (written : Written py (.obj worker)) :
    ∃ row, rowOf py salt worker seen watts telemetry = .ok row ∧
      row.numbers = [.int seen, telemetry.revenue, watts, telemetry.temp, telemetry.accepted,
        telemetry.rejected] := by
  have room : dump py.digits (py.nesting - 1) (JsonText.sortKeys (Dict.get worker "cpu")) =
      .ok () := by
    rw [dump_sortKeys]
    unfold Dict.get Dict.getD
    cases listed : worker.lookup "cpu" with
    | none => rfl
    | some value =>
        have member : ("cpu", value) ∈ worker := by
          rcases List.lookup_eq_some_iff.mp listed with ⟨front, back, same, -⟩
          rw [same]
          exact List.mem_append_right _ List.mem_cons_self
        exact (dump_obj.mp written).2 _ member
  unfold rowOf
  dsimp only
  rw [room]
  exact ⟨_, rfl, rfl⟩

private theorem rowOf_tame {seen : Int} {watts : Number} {telemetry : Telemetry}
    (written : Written py (.obj worker)) :
    ¬Escapes (rowOf py salt worker seen watts telemetry) := by
  rcases @rowOf_ok py worker salt seen watts telemetry written with ⟨row, made, -⟩
  rw [made]
  exact escapes_ok

/-- A worker whose reading comes to an integer that no float can hold where a number is wanted, to
an item of `data` that is no object, or to a sum that Python cannot make. -/
def Derails (py : Python) (now maxAge : Int) (worker : Dict) : Prop :=
  WorkerDerails now maxAge worker ∨
    ∃ sample data, readWorker now maxAge worker = .ok sample ∧ readData worker = .ok data ∧
      MinersDerail py {} data

theorem normalize_escapes (written : Written py (.obj worker)) :
    Escapes (normalize py now maxAge salt worker) ↔ Derails py now maxAge worker := by
  unfold normalize Derails
  rw [escapes_bind, readWorker_escapes]
  apply or_congr_right
  apply exists_congr
  intro sample
  constructor
  · rintro ⟨read, escapes⟩
    dsimp only at escapes
    rw [escapes_after readData_tame] at escapes
    rcases escapes with ⟨data, listed, escapes⟩
    refine ⟨data, read, listed, ?_⟩
    rcases escapes_bind.mp escapes with derails | ⟨telemetry, -, impossible⟩
    · exact (readMiners_escapes (readData_written written listed)).mp derails
    · exact absurd impossible (rowOf_tame written)
  · rintro ⟨data, read, listed, derails⟩
    refine ⟨read, ?_⟩
    apply escapes_bind.mpr
    refine .inr ⟨data, listed, ?_⟩
    apply escapes_bind.mpr
    exact .inl ((readMiners_escapes (readData_written written listed)).mpr derails)

end Workers

end HashBurst.Accelerator
