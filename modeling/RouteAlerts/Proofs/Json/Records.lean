import RouteAlerts.Json.Decoder

/-!
Records of one field. `FieldOf` is what such a record says, from an object or from an array, and
`record_eq_some_iff` that this is how it is read.
-/

namespace RouteAlerts.Json

def valuesOf (name : String) (ms : List (Option (List Char) × Raw)) : List Raw :=
  (ms.filter fun m => m.1 == some name.toList).map Prod.snd

/-- What a record of one field says about it. An object gives it at most once, other members mean
nothing as long as their names are texts; an array holds it alone. -/
inductive FieldOf (name : String) : Raw → Field → Prop where
  | member {ms : List (Option (List Char) × Raw)} {v : Raw} (keys : ∀ m ∈ ms, m.1 ≠ none)
      (only : valuesOf name ms = [v]) : FieldOf name (.object ms) (.given v)
  | missing {ms : List (Option (List Char) × Raw)} (keys : ∀ m ∈ ms, m.1 ≠ none)
      (none : valuesOf name ms = []) : FieldOf name (.object ms) .absent
  | item {v : Raw} : FieldOf name (.array [v]) (.given v)
  | noItem : FieldOf name (.array []) .cutOff

theorem record_object (name : String) (ms : List (Option (List Char) × Raw)) :
    record [name] (.object ms) =
      if ms.any fun m => m.1.isNone then none
      else if 2 ≤ (valuesOf name ms).length then none
      else some [((valuesOf name ms).head?.map Field.given).getD .absent] := by
  have count : ms.countP (fun m => m.1 == some name.toList) = (valuesOf name ms).length := by
    rw [valuesOf, List.length_map, List.countP_eq_length_filter]
  have first : (valuesOf name ms).head? =
      (ms.find? fun m => m.1 == some name.toList).map Prod.snd := by
    rw [valuesOf, List.head?_map, List.head?_filter]
  rw [first, ← count, record]
  simp only [List.any_cons, List.any_nil, Bool.or_false, decide_eq_true_eq, List.map_cons,
    List.map_nil]
  cases ms.find? fun m => m.1 == some name.toList <;> rfl

theorem record_array (name : String) (vs : List Raw) :
    record [name] (.array vs) =
      if 1 < vs.length then none
      else some (vs.map .given ++ List.replicate (1 - vs.length) .cutOff) := rfl

/-- A record of one field is read as what it says about the field. -/
theorem record_eq_some_iff {name : String} {v : Raw} {fields : List Field} :
    record [name] v = some fields ↔ ∃ field, FieldOf name v field ∧ fields = [field] := by
  constructor
  · intro h
    cases v with
    | object ms =>
      rw [record_object] at h
      split at h
      · cases h
      · rename_i named
        have keys : ∀ m ∈ ms, m.1 ≠ none := fun m hm unnamed =>
          named (List.any_eq_true.mpr ⟨m, hm, by rw [unnamed]; rfl⟩)
        -- Unknown members are skipped, and a member that is given twice is refused.
        match own : valuesOf name ms, h with
        | [], h => exact ⟨_, .missing keys own, (Option.some.inj h).symm⟩
        | [v], h => exact ⟨_, .member keys own, (Option.some.inj h).symm⟩
        | _ :: _ :: _, h => simp at h
    | array vs =>
      rw [record_array] at h
      match vs, h with
      | [], h => exact ⟨_, .noItem, (Option.some.inj h).symm⟩
      | [v], h => exact ⟨_, .item, (Option.some.inj h).symm⟩
      | _ :: _ :: _, h => simp at h
    | null => cases h
    | bool => cases h
    | number => cases h
    | string => cases h
  · rintro ⟨field, own, rfl⟩
    cases own with
    | @member ms v keys only =>
      have named : (ms.any fun m => m.1.isNone) = false := by simpa using keys
      rw [record_object, named, only]
      rfl
    | @missing ms keys nothing =>
      have named : (ms.any fun m => m.1.isNone) = false := by simpa using keys
      rw [record_object, named, nothing]
      rfl
    | item => rfl
    | noItem => rfl

end RouteAlerts.Json
