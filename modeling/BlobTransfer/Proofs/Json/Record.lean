import BlobTransfer.Json.Record

/-!
Objects read as records: which members are found, in whatever order they stand and whatever else
stands between them, and values that are read back as they were written.
-/

namespace BlobTransfer.Json

structure IsRecord (names : List String) (members : List (Option String × Json)) : Prop where
  texts : ∀ member ∈ members, member.1 ≠ none
  once : members.Pairwise fun left right =>
    ∀ name ∈ names, left.1 = some name → right.1 ≠ some name

inductive Gives {α : Type} (members : List (Option String × Json)) (name : String)
    (means : Json → α → Prop) : Option α → Prop
  | absent (missing : ∀ json, (some name, json) ∉ members) : Gives members name means none
  | present (json : Json) {value : α} (member : (some name, json) ∈ members)
      (meant : means json value) : Gives members name means (some value)

variable {names : List String} {members : List (Option String × Json)}

theorem IsRecord.tail {member : Option String × Json}
    (record : IsRecord names (member :: members)) : IsRecord names members where
  texts := fun other later => record.texts other (List.mem_cons_of_mem _ later)
  once := (List.pairwise_cons.mp record.once).2

theorem IsRecord.exists_fields (record : IsRecord names members) :
    ∃ fields, knownMembers names members = some fields ∧
      ∀ name ∈ names, ∀ json, fields.lookup name = some json ↔ (some name, json) ∈ members := by
  induction members with
  | nil => exact ⟨[], rfl, by simp⟩
  | cons first later ih =>
      obtain ⟨fields, read, found⟩ := ih record.tail
      obtain ⟨name?, value⟩ := first
      obtain ⟨name, rfl⟩ := Option.ne_none_iff_exists'.mp (record.texts _ List.mem_cons_self)
      by_cases known : name ∈ names
      · have fresh : fields.lookup name = none := by
          apply Option.eq_none_iff_forall_ne_some.mpr
          intro json again
          have member := (found name known json).mp again
          exact (List.pairwise_cons.mp record.once).1 _ member name known rfl rfl
        refine ⟨(name, value) :: fields, ?_, ?_⟩
        · simp [knownMembers, read, known, fresh]
        · intro other listed json
          by_cases same : other = name
          · subst other
            rw [List.lookup_cons_self, List.mem_cons, ← found name known json, fresh]
            simp [eq_comm]
          · have different : (other == name) = false := beq_false_of_ne same
            rw [List.lookup_cons, different, found other listed json]
            simp [same]
      · refine ⟨fields, ?_, ?_⟩
        · simp [knownMembers, read, known]
        · intro other listed json
          have different : other ≠ name := by
            rintro rfl
            exact known listed
          rw [found other listed json]
          simp [different]

theorem IsRecord.unique (record : IsRecord names members) {name : String} (known : name ∈ names)
    {left right : Json} (first : (some name, left) ∈ members)
    (second : (some name, right) ∈ members) : left = right := by
  obtain ⟨fields, _, found⟩ := record.exists_fields
  have here := (found name known left).mpr first
  rw [(found name known right).mpr second] at here
  exact (Option.some.inj here).symm

theorem Gives.map {α β : Type} {name : String} {means : Json → α → Prop}
    {others : Json → β → Prop} {given : Option α} (content : α → β)
    (gives : Gives members name means given)
    (meant : ∀ json value, means json value → others json (content value)) :
    Gives members name others (given.map content) := by
  cases gives with
  | absent missing => exact .absent missing
  | present json member means => exact .present json member (meant _ _ means)

variable {α : Type} {fields : Fields} {name : String} {decode : Json → Option α}

theorem read_of_member {json : Json} {absent : Option α}
    (found : ∀ json, fields.lookup name = some json ↔ (some name, json) ∈ members)
    (member : (some name, json) ∈ members) : fields.read name decode absent = decode json := by
  rw [Fields.read, (found json).mpr member]

theorem read_of_gives {given : Option α} (decode : Json → Option α) (standard : α)
    (found : ∀ json, fields.lookup name = some json ↔ (some name, json) ∈ members)
    (gives : Gives members name (decode · = some ·) given) :
    fields.read name decode (some standard) = some (given.getD standard) := by
  cases gives with
  | absent missing =>
      have lacking : fields.lookup name = none := by
        apply Option.eq_none_iff_forall_ne_some.mpr
        intro json present
        exact missing json ((found json).mp present)
      rw [Fields.read, lacking]
      rfl
  | present _ member decoded =>
      rw [read_of_member found member, decoded]
      rfl

/-! Values read back. -/

theorem isRecord_record (names : List String) (fields : Fields)
    (distinct : (fields.map (·.1)).Nodup) :
    IsRecord names (fields.map fun field => (some field.1, field.2)) where
  texts := by
    intro member written
    obtain ⟨field, _, rfl⟩ := List.mem_map.mp written
    exact Option.some_ne_none _
  once := by
    rw [List.pairwise_map]
    apply (List.pairwise_map.mp distinct).imp
    intro left right different name _ same again
    rw [Option.some.injEq] at same again
    exact different (same.trans again.symm)

theorem toNatural?_natural {bound value : Nat} (small : value < bound) :
    toNatural? bound (natural value) = some value := by
  have within : (0 : Int) ≤ value ∧ (value : Int) < bound := by omega
  simp [natural, toNatural?, within]

theorem toOption?_ofOption {encode : α → Json}
    (reads : ∀ value, decode (encode value) = some value) (filled : ∀ value, encode value ≠ .null)
    (content : Option α) : toOption? decode (ofOption encode content) = some content := by
  cases content with
  | none => rfl
  | some value =>
      have written := reads value
      have notNull := filled value
      simp only [ofOption]
      generalize encode value = json at written notNull ⊢
      cases json <;> simp_all [toOption?]

theorem toList?_array {encode : α → Json}
    (reads : ∀ value, decode (encode value) = some value) (values : List α) :
    toList? decode (.array (values.map encode)) = some values := by
  simp only [toList?]
  induction values with
  | nil => rfl
  | cons first later ih => simp [reads, ih]

end BlobTransfer.Json
