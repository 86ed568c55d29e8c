/-
**Looking up fields in the catalog.**

The index is filled entry by entry, and the first entry of a key stays (`Catalog.lookup_addEntry`
for one entry, `Catalog.lookup_index` for a list). All its keys are normalized names, so a name in
lower case that is found there is its own normalized name: of the two steps of a look-up the first
finds nothing that the second does not find (`Catalog.select_eq`).
-/

import Specimen.Proofs.Runs

namespace Specimen

/-! ### Normalized names -/

/-- A name that is a normalized name once it is in lower case has no separators to lose. -/
theorem normalizedKey_of_lowerCase {name other : String} (same : lowerCase name = normalizedKey other) :
    normalizedKey name = normalizedKey other := by
  have kept : (lowerCase name).toList.filter (fun member => !isSeparator member) =
      (lowerCase name).toList := by
    rw [same, normalizedKey, String.toList_ofList]
    exact List.filter_eq_self.2 fun member mem => (List.mem_filter.1 mem).2
  rw [normalizedKey, kept, String.ofList_toList, same]

namespace Catalog

/-! ### The index -/

/-- Can a field be served by the entry under the key? -/
def isUnder (key : String) (entry : CatalogEntry) : Bool :=
  entry.domain.isPrimitive && entry.key == key

theorem isUnder_iff {key : String} {entry : CatalogEntry} :
    isUnder key entry = true ↔ entry.domain.isPrimitive = true ∧ entry.key = key := by
  rw [isUnder, Bool.and_eq_true, beq_iff_eq]

section Index

variable {found : List (String × CatalogEntry)} {entries : List CatalogEntry} {key : String}

/-- An entry is found once it is added, if nothing was found before. -/
theorem lookup_addEntry (entry : CatalogEntry) :
    (addEntry found entry).lookup key =
      (found.lookup key).or (if isUnder key entry then some entry else none) := by
  unfold addEntry
  split
  · next passed =>
    by_cases under : isUnder key entry = true
    · obtain ⟨primitive, rfl⟩ := isUnder_iff.1 under
      rw [primitive, Bool.not_true, Bool.false_or] at passed
      exact (Option.or_of_isSome passed).symm
    · rw [if_neg under, Option.or_none]
  · next added =>
    have primitive : entry.domain.isPrimitive = true := by
      rw [Bool.or_eq_true, not_or, Bool.not_eq_true', Bool.not_eq_false] at added
      exact added.1
    rw [List.lookup_append, List.lookup_cons, List.lookup_nil, isUnder, primitive, Bool.true_and]
    by_cases same : entry.key = key
    · rw [same, beq_self_eq_true, if_pos rfl]
    · rw [beq_false_of_ne same, beq_false_of_ne (Ne.symm same)]
      rfl

/-- What is found after a list of entries was added: what was there, or else the first of them. -/
theorem lookup_foldl : (entries.foldl addEntry found).lookup key =
    (found.lookup key).or (entries.find? (isUnder key)) := by
  induction entries generalizing found with
  | nil => rw [List.foldl_nil, List.find?_nil, Option.or_none]
  | cons entry rest hypothesis =>
    rw [List.foldl_cons, hypothesis, lookup_addEntry, Option.or_assoc, List.find?_cons]
    cases isUnder key entry <;> rfl

/-- The index has for a key the first entry of a primitive domain with that key. -/
theorem lookup_index : (index entries).lookup key = entries.find? (isUnder key) := lookup_foldl

/-! ### Two steps -/

/-- What is found by the name in lower case is found by the normalized name. -/
theorem lookup_lowerCase {name : String} {entry : CatalogEntry}
    (listed : (index entries).lookup (lowerCase name) = some entry) :
    (index entries).lookup (normalizedKey name) = some entry := by
  have under := List.find?_some (lookup_index.symm.trans listed)
  have normal : lowerCase name = entry.key := (isUnder_iff.1 under).2.symm
  rw [normalizedKey_of_lowerCase normal, ← CatalogEntry.key, ← normal]
  exact listed

/-- The first step of a look-up never changes its outcome. -/
theorem select_eq (entries : List CatalogEntry) (name : String) :
    select? (index entries) name = entries.find? (isUnder (normalizedKey name)) := by
  rw [← lookup_index, select?]
  cases first : (index entries).lookup (lowerCase name) with
  | none => exact Option.none_or
  | some entry => rw [Option.some_or, lookup_lowerCase first]

theorem select_catalog (name : String) :
    select? catalogIndex name = catalog.find? (isUnder (normalizedKey name)) := by
  unfold catalogIndex
  exact select_eq catalog name

/-- What is selected is an entry of a primitive domain. -/
theorem of_select {name : String} {entry : CatalogEntry}
    (selected : select? catalogIndex name = some entry) :
    entry ∈ catalog ∧ entry.domain.isPrimitive = true := by
  rw [select_catalog] at selected
  exact ⟨List.mem_of_find?_eq_some selected, (isUnder_iff.1 (List.find?_some selected)).1⟩

end Index

/-! ### Generators for fields -/

/-- The entry is the first one of a primitive domain whose normalized name is the key. -/
def IsFirst (entries : List CatalogEntry) (key : String) (entry : CatalogEntry) : Prop :=
  ∃ before after, entries = before ++ entry :: after ∧
    (entry.domain.isPrimitive = true ∧ normalizedKey entry.name = key) ∧
    ∀ other ∈ before, ¬ (other.domain.isPrimitive = true ∧ normalizedKey other.name = key)

theorem select_eq_some_iff {entries : List CatalogEntry} {name : String} {entry : CatalogEntry} :
    select? (index entries) name = some entry ↔ IsFirst entries (normalizedKey name) entry := by
  have under_iff (other : CatalogEntry) : isUnder (normalizedKey name) other = true ↔
      other.domain.isPrimitive = true ∧ normalizedKey other.name = normalizedKey name := isUnder_iff
  have passed_iff (other : CatalogEntry) : (!isUnder (normalizedKey name) other) = true ↔
      ¬ (other.domain.isPrimitive = true ∧ normalizedKey other.name = normalizedKey name) := by
    rw [← under_iff, Bool.not_eq_true', Bool.not_eq_true]
  rw [select_eq, List.find?_eq_some_iff_append, under_iff]
  constructor
  · rintro ⟨under, before, after, split, others⟩
    exact ⟨before, after, split, under, fun other mem => (passed_iff other).1 (others other mem)⟩
  · rintro ⟨before, after, split, under, others⟩
    exact ⟨under, before, after, split, fun other mem => (passed_iff other).2 (others other mem)⟩

theorem select_eq_none_iff {entries : List CatalogEntry} {name : String} :
    select? (index entries) name = none ↔
      ∀ entry ∈ entries, ¬ (entry.domain.isPrimitive = true ∧
        normalizedKey entry.name = normalizedKey name) := by
  rw [select_eq, List.find?_eq_none]
  exact forall₂_congr fun entry _ => not_congr isUnder_iff

/-- Where the mapper makes nothing, the catalog decides. -/
theorem generator_of_unmapped {environment : Environment} {mapper : Option Hook} {name : String}
    {reply : Reply} {session after : Session}
    (asked : askMapper environment mapper (.text name) session = (.ok reply, after))
    (nothing : reply.isTruthy = false) (reference : Value) :
    generator environment mapper reference (.text name) session =
      (.ok (match select? catalogIndex name with
        | none => .value .null
        | some entry => .generator (entry.request.make environment
            (if reference.isTruthy then reference else .moment environment.today))), after) := by
  rw [generator, Run.bind_ok asked, if_neg (ne_true_of_eq_false nothing), nameText, Run.lift_ok,
    pure_bind]
  generalize select? catalogIndex name = selected
  cases selected <;> rfl

/-- **The catalog has for a field the first entry whose normalized name is the normalized name of
the field**, of those with a primitive domain, and nothing exactly if there is none; the name in
lower case makes no difference, nor does any spelling with the same normalized name. Where the
mapper makes nothing, the generator of that entry is what is found. -/
theorem select_first (entries : List CatalogEntry) (name : String) :
    (∀ entry, select? (index entries) name = some entry ↔
      IsFirst entries (normalizedKey name) entry) ∧
    (select? (index entries) name = none ↔ ∀ entry ∈ entries,
      ¬ (entry.domain.isPrimitive = true ∧ normalizedKey entry.name = normalizedKey name)) ∧
    select? (index entries) name = (index entries).lookup (normalizedKey name) ∧
    (∀ other, normalizedKey other = normalizedKey name →
      select? (index entries) other = select? (index entries) name) ∧
    ∀ environment mapper reference reply session after,
      askMapper environment mapper (.text name) session = (.ok reply, after) →
      reply.isTruthy = false →
      generator environment mapper reference (.text name) session =
        (.ok (match catalog.find? (isUnder (normalizedKey name)) with
          | none => .value .null
          | some entry => .generator (entry.request.make environment
              (if reference.isTruthy then reference else .moment environment.today))), after) := by
  refine ⟨fun entry => select_eq_some_iff, select_eq_none_iff,
    (select_eq entries name).trans lookup_index.symm, fun other same => ?_, ?_⟩
  · rw [select_eq, select_eq, same]
  · intro environment mapper reference reply session after asked nothing
    rw [← select_catalog]
    exact generator_of_unmapped asked nothing reference

/-- An environment without definitions and words, whose provider and functions give nothing. -/
def emptyEnvironment : Environment :=
  ⟨⟨fun _ => pure .null, [], fun _ _ _ => .ok ""⟩, [], fun _ _ => pure (.value .null), ⟨0, none⟩⟩

/-- A session in which nothing was drawn yet. -/
def ownSession : Session := .start ⟨.ofSeed 1, .int 1⟩ 0

/-- A user name is served by the first of the two entries for it. -/
theorem userName_first :
    (select? (index catalog) "User-Name").map CatalogEntry.name = some "user_name" ∧
    askMapper emptyEnvironment none (.text "User-Name") ownSession =
      (.ok (.value .null), ownSession) ∧
    ∃ entry : CatalogEntry, entry.name = "user_name" ∧
      generator emptyEnvironment none .null (.text "User-Name") ownSession =
        (.ok (.generator (entry.request.make emptyEnvironment (.moment emptyEnvironment.today))),
          ownSession) := by
  obtain ⟨_, _, selected, _, generates⟩ := select_first catalog "User-Name"
  have normal : normalizedKey "User-Name" = "username" := by decide +kernel
  have first : (catalog.find? (isUnder "username")).map CatalogEntry.name = some "user_name" := by
    decide +kernel
  obtain ⟨entry, found, named⟩ := Option.map_eq_some_iff.1 first
  have asked : askMapper emptyEnvironment none (.text "User-Name") ownSession =
      (.ok (.value .null), ownSession) := by
    have unmapped : mapped? (lowerCase "User-Name") = none := by
      rw [show lowerCase "User-Name" = "user-name" by decide +kernel]
      rfl
    have named : (Value.text "User-Name").isTruthy = true := rfl
    rw [askMapper, builtinMapper, named, nameText, Run.lift_ok, pure_bind, unmapped]
    rfl
  refine ⟨?_, asked, entry, named, ?_⟩
  · rw [selected, lookup_index, normal]
    exact first
  · rw [generates _ _ _ _ _ _ asked rfl, normal, found]
    rfl

end Catalog

end Specimen
