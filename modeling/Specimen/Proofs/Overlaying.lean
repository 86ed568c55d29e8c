/-
**Laying entries over a dictionary.**

Entries are put one after another: a key that is there keeps its place and gets the new value, and a
new one comes last. So an entry can be put before or after others whose keys differ, and two
dictionaries that are laid over a third one after the other amount to one (`Value.putAll_putAll`).

`Value.merged` says what laying over comes to: every key stands where it comes first and has the
value that comes last.
-/

import Specimen.Proofs.Distinct

namespace Specimen

namespace Value

/-! ### Putting entries -/

/-- The entries of a dictionary; any other value has none. -/
def entries : Value → List (Value × Value)
  | .dictionary entries => entries
  | _ => []

variable {first second value other : Value} {base entries more : List (Value × Value)}

/-- May the keys of all entries be keys? -/
abbrev HaveKeys (entries : List (Value × Value)) : Prop :=
  ∀ entry ∈ entries, entry.1.isHashable = true

/-- Entries with pairwise different keys. -/
structure AreKeyed (entries : List (Value × Value)) : Prop where
  keys : HaveKeys entries
  different : (entries.map (·.1)).Pairwise fun key later => key.same later = false

theorem AreKeyed.rest {entry : Value × Value} {rest : List (Value × Value)}
    (keyed : AreKeyed (entry :: rest)) : AreKeyed rest :=
  ⟨fun other mem => keyed.keys other (List.mem_cons_of_mem _ mem),
    (List.pairwise_cons.1 keyed.different).2⟩

theorem lookup_cons (entry : Value × Value) (rest : List (Value × Value)) (key : Value) :
    lookup? (entry :: rest) key = if key.same entry.1 then some entry.2 else lookup? rest key := by
  unfold lookup?
  rw [List.find?_cons]
  cases key.same entry.1 <;> rfl

theorem lookup_append (entries more : List (Value × Value)) (key : Value) :
    lookup? (entries ++ more) key = (lookup? entries key).or (lookup? more key) := by
  induction entries with
  | nil => rfl
  | cons entry rest hypothesis =>
    rw [List.cons_append, lookup_cons, lookup_cons, hypothesis]
    split <;> rfl

theorem lookup_eq_none_iff {key : Value} :
    lookup? entries key = none ↔ ∀ entry ∈ entries, key.same entry.1 = false := by
  simp [lookup?]

/-- A key that was put has its value, and the others have theirs. -/
theorem lookup_put (entries : List (Value × Value)) (first second value : Value) :
    lookup? (put entries first value) second =
      if second.same first then some value else lookup? entries second := by
  induction entries with
  | nil => rw [put, lookup_cons]
  | cons entry rest hypothesis =>
    obtain ⟨found, old⟩ := entry
    rw [put]
    cases same : first.same found with
    | true =>
      rw [if_pos rfl, lookup_cons, lookup_cons]
      cases wanted : second.same found with
      | true => simp [same_of_same wanted same]
      | false =>
        have different : second.same first = false :=
          not_same_of_ne (by simp [wanted, same] : second.same found ≠ first.same found)
        simp [different]
    | false =>
      rw [if_neg Bool.false_ne_true, lookup_cons, lookup_cons, hypothesis]
      cases wanted : second.same found with
      | true =>
        have different : second.same first = false :=
          not_same_of_ne (by simp [wanted, same] : second.same found ≠ first.same found)
        simp [different]
      | false => simp

/-- What is put later counts: a key is looked up in what was put, from its end, and then in what
was there. -/
theorem lookup_putAll (base more : List (Value × Value)) (key : Value) :
    lookup? (putAll base more) key = (lookup? more.reverse key).or (lookup? base key) := by
  induction more generalizing base with
  | nil => rfl
  | cons entry rest hypothesis =>
    rw [List.reverse_cons, lookup_append, Option.or_assoc]
    refine (hypothesis (put base entry.1 entry.2)).trans (congrArg _ ?_)
    rw [lookup_put, lookup_cons]
    split <;> rfl

/-! ### The order of puts -/

/-- A key that is there keeps its place, and a new one comes last. -/
theorem put_keys (entries : List (Value × Value)) (first value : Value) :
    (put entries first value).map (·.1) =
      if first.isIn (entries.map (·.1)) then entries.map (·.1)
      else entries.map (·.1) ++ [first] := by
  induction entries with
  | nil => rfl
  | cons entry rest hypothesis =>
    obtain ⟨found, old⟩ := entry
    cases isHere : first.same found with
    | true => simp [put, isIn, isHere]
    | false =>
      have later : first.isIn (((found, old) :: rest).map (·.1)) = first.isIn (rest.map (·.1)) := by
        simp [isIn, isHere]
      rw [later, put, if_neg (by simp [isHere]), List.map_cons, hypothesis]
      split <;> rfl

/-- Of two values that are put under one key the second one counts. -/
theorem put_put_same (same : second.same first = true) :
    put (put entries first value) second other = put entries first other := by
  induction entries with
  | nil => simp [put, same]
  | cons entry rest hypothesis =>
    obtain ⟨found, old⟩ := entry
    have asFirst := same_congr same found
    cases isHere : first.same found <;> simp [put, asFirst, isHere, hypothesis]

/-- An entry whose key is there can be put before or after an entry with another key. -/
theorem put_comm (different : second.same first = false)
    (present : second.isIn (entries.map (·.1)) = true) :
    put (put entries first value) second other = put (put entries second other) first value := by
  induction entries with
  | nil => cases present
  | cons entry rest hypothesis =>
    obtain ⟨found, old⟩ := entry
    cases isFirst : first.same found with
    | true =>
      have notSecond : second.same found = false := by
        rw [Bool.eq_false_iff]
        intro isSecond
        rw [same_of_same isSecond isFirst] at different
        cases different
      simp [put, isFirst, notSecond]
    | false =>
      cases isSecond : second.same found with
      | true => simp [put, isFirst, isSecond]
      | false =>
        have later : second.isIn (rest.map (·.1)) = true := by
          simpa [isIn, isSecond] using present
        simp [put, isFirst, isSecond, hypothesis later]

theorem isIn_append_left {items : List Value} (present : second.isIn items = true)
    (others : List Value) : second.isIn (items ++ others) = true := by
  rw [isIn] at present
  rw [isIn, List.any_append, present, Bool.true_or]

/-- A key that is there stays there. -/
theorem isIn_put (present : second.isIn (entries.map (·.1)) = true) :
    second.isIn ((put entries first value).map (·.1)) = true := by
  rw [put_keys]
  split
  · exact present
  · exact isIn_append_left present [first]

/-- The key that was put is there. -/
theorem isIn_put_same (same : second.same first = true) :
    second.isIn ((put entries first value).map (·.1)) = true := by
  rw [put_keys]
  split
  · next present =>
    have asFirst : (second.same ·) = (first.same ·) := funext (same_congr same)
    rw [isIn, asFirst]
    exact present
  · rw [isIn, List.any_append]
    simp [same]

/-- An entry whose key is there can be put before or after entries with other keys. -/
theorem put_putAll (absent : ∀ entry ∈ more, second.same entry.1 = false)
    (present : second.isIn (base.map (·.1)) = true) :
    put (putAll base more) second other = putAll (put base second other) more := by
  induction more generalizing base with
  | nil => rfl
  | cons entry rest hypothesis =>
    have moved : put (put base entry.1 entry.2) second other =
        put (put base second other) entry.1 entry.2 :=
      put_comm (absent entry List.mem_cons_self) present
    have others : put (putAll (put base entry.1 entry.2) rest) second other =
        putAll (put (put base entry.1 entry.2) second other) rest :=
      hypothesis (fun other mem => absent other (List.mem_cons_of_mem _ mem)) (isIn_put present)
    exact others.trans (congrArg (putAll · rest) moved)

/-- An entry that is put after others may as well be put among them. -/
theorem put_putAll_eq (keyed : AreKeyed more) (second other : Value) :
    put (putAll base more) second other = putAll base (put more second other) := by
  induction more generalizing base with
  | nil => rfl
  | cons entry rest hypothesis =>
    obtain ⟨found, old⟩ := entry
    have others : AreKeyed rest := keyed.rest
    cases same : second.same found with
    | false =>
      rw [put, if_neg (by simp [same])]
      exact hypothesis others
    | true =>
      have absent : ∀ entry ∈ rest, second.same entry.1 = false := fun later mem => by
        rw [same_congr same]
        exact (List.pairwise_cons.1 keyed.different).1 later.1 (List.mem_map_of_mem mem)
      rw [put, if_pos same]
      exact (put_putAll absent (isIn_put_same same)).trans
        (congrArg (putAll · rest) (put_put_same same))

namespace AreKeyed

theorem nil : AreKeyed [] := ⟨nofun, .nil⟩

theorem put (keyed : AreKeyed entries) (hashable : first.isHashable = true) :
    AreKeyed (put entries first value) := by
  have isKey : ∀ key ∈ entries.map (·.1), key.isHashable = true := by
    rw [List.forall_mem_map]
    exact keyed.keys
  have stillKey : ∀ key ∈ (Value.put entries first value).map (·.1), key.isHashable = true := by
    rw [put_keys]
    split
    · exact isKey
    · rw [List.forall_mem_append]
      exact ⟨isKey, by simpa using hashable⟩
  refine ⟨fun entry mem => stillKey entry.1 (List.mem_map_of_mem mem), ?_⟩
  · rw [put_keys]
    split
    · exact keyed.different
    · next absent =>
      refine List.pairwise_append.2 ⟨keyed.different, List.pairwise_singleton _ _, ?_⟩
      intro key mem new isNew
      rw [List.mem_singleton.1 isNew, same_comm]
      rw [isIn, List.any_eq_true] at absent
      exact Bool.eq_false_iff.2 fun same => absent ⟨key, mem, same⟩

theorem putAll (keyed : AreKeyed entries) (keys : HaveKeys more) :
    AreKeyed (putAll entries more) := by
  induction more generalizing entries with
  | nil => exact keyed
  | cons entry rest hypothesis =>
    exact hypothesis (keyed.put (keys entry List.mem_cons_self))
      fun other mem => keys other (List.mem_cons_of_mem _ mem)

end AreKeyed

theorem put_of_absent (absent : ∀ entry ∈ entries, first.same entry.1 = false) :
    put entries first value = entries ++ [(first, value)] := by
  induction entries with
  | nil => rfl
  | cons entry rest hypothesis =>
    obtain ⟨different, others⟩ := List.forall_mem_cons.1 absent
    rw [put, if_neg (by simp [different]), hypothesis others]
    rfl

/-- New entries with pairwise different keys are added as they are. -/
theorem AreKeyed.putAll_eq (keyed : AreKeyed (base ++ more)) :
    Value.putAll base more = base ++ more := by
  induction more generalizing base with
  | nil => exact (List.append_nil base).symm
  | cons entry rest hypothesis =>
    have different := keyed.different
    rw [List.map_append, List.pairwise_append] at different
    have absent : ∀ old ∈ base, entry.1.same old.1 = false := fun old mem => by
      rw [same_comm]
      exact different.2.2 old.1 (List.mem_map_of_mem mem) entry.1 (by simp)
    rw [List.append_cons] at keyed ⊢
    rw [← hypothesis keyed, ← put_of_absent absent]
    rfl

/-- Laying two dictionaries over a third one is laying their merger over it. -/
theorem putAll_putAll (keyed : AreKeyed entries) (keys : HaveKeys more) :
    putAll (putAll base entries) more = putAll base (putAll entries more) := by
  induction more generalizing entries with
  | nil => rfl
  | cons entry rest hypothesis =>
    have isKey := keys entry List.mem_cons_self
    have among : put (putAll base entries) entry.1 entry.2 =
        putAll base (put entries entry.1 entry.2) := put_putAll_eq keyed entry.1 entry.2
    have others : putAll (putAll base (put entries entry.1 entry.2)) rest =
        putAll base (putAll (put entries entry.1 entry.2) rest) :=
      hypothesis (keyed.put isKey) fun other mem => keys other (List.mem_cons_of_mem _ mem)
    exact (congrArg (putAll · rest) among).trans others

/-! ### What laying over comes to -/

/-- The dictionary of some entries: every key stands where it comes first and has the value that
comes last. -/
def merged (entries : List (Value × Value)) : List (Value × Value) :=
  (distinct (entries.map (·.1))).map fun key => (key, (lookup? entries.reverse key).getD .absent)

namespace AreKeyed

/-- Every entry is found under its key. -/
theorem lookup_of_mem (keyed : AreKeyed entries) {entry : Value × Value} (mem : entry ∈ entries) :
    lookup? entries entry.1 = some entry.2 := by
  induction entries with
  | nil => cases mem
  | cons first rest hypothesis =>
    rw [lookup_cons]
    rcases List.mem_cons.1 mem with rfl | later
    · rw [same_refl, if_pos rfl]
    · have different := (List.pairwise_cons.1 keyed.different).1 entry.1 (List.mem_map_of_mem later)
      rw [same_comm, different]
      exact hypothesis keyed.rest later

/-- Where keys are pairwise different their order does not matter for what is found. -/
theorem lookup_reverse (keyed : AreKeyed entries) (first : Value) :
    lookup? entries.reverse first = lookup? entries first := by
  induction entries with
  | nil => rfl
  | cons entry rest hypothesis =>
    rw [List.reverse_cons, lookup_append, hypothesis keyed.rest, lookup_cons, lookup_cons]
    cases same : first.same entry.1 with
    | false => simp [lookup?]
    | true =>
      have absent : lookup? rest first = none := lookup_eq_none_iff.2 fun later mem => by
        rw [same_congr same]
        exact (List.pairwise_cons.1 keyed.different).1 later.1 (List.mem_map_of_mem mem)
      rw [absent]
      rfl

/-- Pairwise different keys are gathered as they are. -/
theorem distinct_keys (keyed : AreKeyed entries) :
    distinct (entries.map (·.1)) = entries.map (·.1) :=
  distinct_of_unrepeated (keyed.different.imp fun differ => same_comm _ _ ▸ differ)

end AreKeyed

/-- The keys come in the order in which they are first put. -/
theorem putAll_keys (keyed : AreKeyed base) :
    (putAll base more).map (·.1) = distinct ((base ++ more).map (·.1)) := by
  have puts : ∀ base : List (Value × Value), (putAll base more).map (·.1) =
      (more.map (·.1)).foldl
        (fun found key => if key.isIn found then found else found ++ [key]) (base.map (·.1)) := by
    induction more with
    | nil => exact fun base => rfl
    | cons entry rest hypothesis =>
      intro base
      rw [List.map_cons, List.foldl_cons, ← put_keys base entry.1 entry.2]
      exact hypothesis (put base entry.1 entry.2)
  rw [puts, List.map_append, distinct, List.foldl_append, ← distinct, keyed.distinct_keys]

/-- Laying entries over a dictionary merges them. -/
theorem putAll_eq_merged (keyed : AreKeyed base) (keys : HaveKeys more) :
    putAll base more = merged (base ++ more) := by
  have found : ∀ entry ∈ putAll base more,
      (entry.1, (lookup? (base ++ more).reverse entry.1).getD .absent) = entry := by
    intro entry mem
    rw [List.reverse_append, lookup_append, keyed.lookup_reverse, ← lookup_putAll,
      (keyed.putAll keys).lookup_of_mem mem]
    rfl
  rw [merged, ← putAll_keys keyed, List.map_map]
  exact ((List.map_congr_left found).trans (List.map_id _)).symm

end Value

end Specimen
