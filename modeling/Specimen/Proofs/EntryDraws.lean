/-
**The entries of maps and records.**

A map or a record is filled by drawing entries, each a key and then its value, and putting them one
after another. What was drawn comes to `Value.merged`: each key stands where it came first, with the
value that came last. Entries are drawn until there are as many different keys as are wanted, or
until no attempt is left, and not one entry more.

A key that cannot be a key is found out only when its value has been drawn. The node then is
absent, and there is a record of the fault. `Make.fill_ends` says this of the loop, and
`generate_entries` of nodes.
-/

import Specimen.Proofs.Making
import Specimen.Proofs.Numbered
import Specimen.Proofs.Overlaying

namespace Specimen

open Run (Gives Repeats LoopEnds IsLoop IsWanted)
open Value (HaveKeys merged)

/-! ### Putting what was drawn -/

namespace Make

/-- Entries are put one after another, if all of their keys may be keys. -/
theorem foldlM_putEntry (drawn found : List (Value × Value)) : drawn.foldlM putEntry found =
    if HaveKeys drawn then .ok (Value.putAll found drawn) else .error .wrongType := by
  induction drawn generalizing found with
  | nil => rfl
  | cons first rest hypothesis =>
    rw [List.foldlM_cons, putEntry]
    cases isKey : first.1.isHashable with
    | true =>
      rw [if_pos rfl]
      refine (hypothesis _).trans ?_
      simp only [HaveKeys, List.forall_mem_cons, isKey, true_and]
      rfl
    | false =>
      have noKeys : ¬ HaveKeys (first :: rest) := fun keys =>
        Bool.false_ne_true (isKey.symm.trans (keys first List.mem_cons_self))
      rw [if_neg Bool.false_ne_true, if_neg noKeys]
      rfl

variable {drawn : List (Value × Value)}

/-- What was put into an empty dictionary is merged. -/
theorem eq_merged_of_put {found : List (Value × Value)}
    (put : drawn.foldlM putEntry [] = .ok found) : HaveKeys drawn ∧ found = merged drawn := by
  rw [foldlM_putEntry] at put
  split at put
  · next keys =>
    rw [Value.putAll_eq_merged .nil keys] at put
    exact ⟨keys, (Except.ok.inj put).symm⟩
  · cases put

theorem fault_of_put {fault : Fault} (put : drawn.foldlM putEntry [] = .error fault) :
    fault = .wrongType ∧ ¬ HaveKeys drawn := by
  rw [foldlM_putEntry] at put
  split at put
  · cases put
  · next noKeys => exact ⟨(Except.error.inj put).symm, noKeys⟩

/-- If all but the last of some entries have keys, it is the last one that has none. -/
theorem exists_last_of_not_haveKeys (noKeys : ¬ HaveKeys drawn)
    (earlier : ∀ fewer < drawn.length, HaveKeys (drawn.take fewer)) :
    ∃ before last, drawn = before ++ [last] ∧ HaveKeys before ∧ last.1.isHashable = false := by
  rcases List.eq_nil_or_concat' drawn with rfl | ⟨before, last, rfl⟩
  · exact absurd (List.forall_mem_nil _) noKeys
  have keys := earlier before.length (by simp)
  rw [List.take_left] at keys
  refine ⟨before, last, rfl, keys, eq_false_of_ne_true fun isKey => noKeys ?_⟩
  exact List.forall_mem_append.2 ⟨keys, List.forall_mem_singleton.2 isKey⟩

/-! ### Filling -/

/-- How filling a map or a record ends for which these entries were drawn. -/
inductive EntriesEnd (draw : Run (Value × Value)) (tag : String) (context : Context) (target : Int)
    (drawn : List (Value × Value)) (after : Session) : Except Fault Value × Session → Prop
  | enough (keys : HaveKeys drawn) (reached : target ≤ (merged drawn).length) :
      EntriesEnd draw tag context target drawn after (.ok (.dictionary (merged drawn)), after)
  | exhausted (keys : HaveKeys drawn) (short : (merged drawn).length < target)
      (tried : (drawn.length : Int) = max 10 (10 * target)) :
      EntriesEnd draw tag context target drawn after (.ok (.dictionary (merged drawn)),
        { after with
          log := exhaustedRecord "Key" "keys" (merged drawn).length target :: after.log })
  | refused {before : List (Value × Value)} {last : Value × Value} (ends : drawn = before ++ [last])
      (keys : HaveKeys before) (noKey : last.1.isHashable = false) :
      EntriesEnd draw tag context target drawn after
        (.ok .absent, { after with log := containedRecord tag context :: after.log })
  | failed {fault : Fault} {last : Session} (keys : HaveKeys drawn)
      (short : (merged drawn).length < target) (left : (drawn.length : Int) < max 10 (10 * target))
      (fails : draw after = (.error fault, last)) :
      EntriesEnd draw tag context target drawn after (.error fault, last)

/-- The rule for a map or a record that should have a number of entries. -/
def fillEntries (key value : Run Value) (target : EntryTarget) : Run Value := do
  let found ← fill key value target.enough target.attempts []
  if found.length < target.enough then
    logExhausted "Key" "keys" found.length target.reported
  pure (.dictionary found)

/-- **Entries are drawn as long as they are needed**, and merged. -/
theorem fill_ends {key value : Run Value} (tag : String) (context : Context) (target : Int)
    (unknown : (entry key value).FailsWith fun fault => fault.isUnknownType = true)
    (session : Session) :
    ∃ drawn after, Repeats (entry key value) session drawn after ∧
      AreNeeded (fun drawn => (merged drawn).length) target drawn ∧
        EntriesEnd (entry key value) tag context target drawn after (filled tag context
          (fillEntries key value ⟨target.toNat, attemptsFor target, target⟩) session) := by
  obtain ⟨drawn, after, repeats, limited, wanted, ends⟩ :=
    (fill_isLoop key value target.toNat).ends (attemptsFor target) [] session
  -- A target below zero is reached by no keys at all, as zero is.
  have short_iff (size : Nat) : ¬ target.toNat ≤ size ↔ (size : Int) < target := by omega
  refine ⟨drawn, after, repeats, .of_wanted wanted limited fun fewer found added short => ?_, ?_⟩
  · obtain ⟨_, rfl⟩ := eq_merged_of_put added
    exact (short_iff _).1 short
  rcases made : fill key value target.toNat (attemptsFor target) [] session with ⟨result, last⟩
  rw [made] at ends
  cases ends with
  | done added complete =>
    obtain ⟨keys, rfl⟩ := eq_merged_of_put added
    rw [fillEntries, filled_bind made]
    by_cases short : target.toNat ≤ (merged drawn).length
    · rw [if_neg (Nat.not_lt.2 short), filled_pure]
      exact .enough keys (by omega)
    · rw [if_pos (Nat.not_le.1 short), filled_bind (logExhausted_apply _ _ _ _ _), filled_pure]
      refine .exhausted keys ((short_iff _).1 short) ?_
      rw [complete.resolve_left short, attemptsFor_eq]
  | refused added =>
    obtain ⟨rfl, noKeys⟩ := fault_of_put added
    -- The loop went on after every draw but the last, so it is the last key that was refused.
    have earlier : ∀ fewer < drawn.length, HaveKeys (drawn.take fewer) := by
      intro fewer less
      obtain ⟨found, put, _⟩ := wanted fewer less
      exact (eq_merged_of_put put).1
    obtain ⟨before, last, ends, keys, noKey⟩ := exists_last_of_not_haveKeys noKeys earlier
    rw [fillEntries, filled_contained rfl (Run.bind_error made _)]
    exact .refused ends keys noKey
  | failed added short left fails =>
    obtain ⟨keys, rfl⟩ := eq_merged_of_put added
    rw [fillEntries, filled_eq (Run.bind_error made _) fun fault same =>
      Except.error.inj same ▸ unknown _ _ _ fails]
    refine .failed keys ((short_iff _).1 short) ?_ fails
    rw [← attemptsFor_eq]
    exact Int.ofNat_lt.2 left

theorem entryTarget_of_toInt {size : Value} {target : Int} (isTarget : size.toInt? = some target) :
    entryTarget size = .ok ⟨target.toNat, attemptsFor target, target⟩ := by
  cases size with
  | bool | int =>
    cases isTarget
    rfl
  | _ => cases isTarget

end Make

/-! ### Generation -/

/-- **A map or a record comes to the entries that were drawn for it**, and nothing is drawn that is
not needed: each key stands where it came first, with the value that came last. It is absent if the
last key that was drawn cannot be one, and only an unknown kind breaks it off. -/
theorem generate_entries (environment : Environment) {schema keys values : Schema}
    {context below : Context} {levels : Nat} {target : Int} (has : context.HasLevels levels)
    (own : context.overrides.lookup schema.tag = none)
    (deeper : context.deeper = .ok (some below))
    (asks : schema.kind = .map ∧ context.mapEntriesLength.toInt? = some target ∨
      schema.kind = .record ∧ context.recordKeysLength.toInt? = some target)
    (ofKey : schema.key = some keys) (ofValue : schema.value = some values) (session : Session) :
    ∃ drawn after,
      Repeats (Make.entry (generate environment keys below) (generate environment values below))
        session drawn after ∧
      Make.AreNeeded (fun drawn => (merged drawn).length) target drawn ∧
      Make.EntriesEnd
        (Make.entry (generate environment keys below) (generate environment values below))
        schema.tag context target drawn after (generate environment schema context session) := by
  have rule : generate environment schema context = Make.filled schema.tag context
      (Make.fillEntries (generate environment keys below) (generate environment values below)
        ⟨target.toNat, Make.attemptsFor target, target⟩) := by
    have parts : (schema.parts (generate environment)).key = some (generate environment keys) ∧
        (schema.parts (generate environment)).value = some (generate environment values) := by
      rw [Schema.parts, ofKey, ofValue]
      exact ⟨rfl, rfl⟩
    have same := Context.eq_of_deeper deeper
    rcases asks with ⟨kind, size⟩ | ⟨kind, size⟩
    · rw [generate_of_deeper has deeper own (by rw [Make.builtin?, kind, parts.1, parts.2]; rfl)]
      have asked : Make.entryTarget below.mapEntriesLength = _ :=
        Make.entryTarget_of_toInt (by rw [same]; exact size)
      rw [asked]
      rfl
    · rw [generate_of_deeper has deeper own (by rw [Make.builtin?, kind, parts.1, parts.2]; rfl)]
      have asked : Make.entryTarget below.recordKeysLength = _ :=
        Make.entryTarget_of_toInt (by rw [same]; exact size)
      rw [asked]
      rfl
  rw [rule]
  refine Make.fill_ends schema.tag context target ?_ session
  exact (generate_failsWith environment keys below).bind fun _ =>
    (generate_failsWith environment values below).bind fun _ => .pure _

/-- A map from lists to booleans, which may have none. -/
def listKeys : Schema := .mapOf (.literal (.list [])) .boolean

/-- A map whose keys cannot be keys is absent. -/
theorem listKeys_absent : Gives (generate (.numbered []) listKeys {}) (· = .absent) := by
  have has : Context.HasLevels {} 10 := ⟨0, 10, rfl, rfl, rfl⟩
  have deeper : Context.deeper {} = .ok (some { currentDepth := .int 1 }) := rfl
  have keys : Gives (generate (.numbered []) (.literal (.list [])) { currentDepth := .int 1 })
      (· = .list []) :=
    generate_gives_of_builtin rfl (fun _ _ => rfl) (Gives.pure rfl)
  have values : Gives (generate (.numbered []) .boolean { currentDepth := .int 1 }) fun _ => True :=
    generate_gives_of_builtin rfl (fun _ _ => rfl)
      (Draw.boolean_gives.bind fun _ _ => Gives.pure True.intro)
  have draws : Gives (Make.entry _ _) (·.1 = .list []) :=
    keys.bind fun _ same => values.bind fun _ _ => Gives.pure same
  have ofKey : listKeys.key = some (.literal (.list [])) := rfl
  intro session
  obtain ⟨drawn, after, repeats, _, ends⟩ := generate_entries (.numbered []) has rfl deeper
    (.inl ⟨rfl, rfl⟩) ofKey rfl session
  have none : HaveKeys drawn → drawn = [] := by
    intro areKeys
    refine List.eq_nil_iff_forall_not_mem.2 fun entry mem => ?_
    have isKey := areKeys entry mem
    rw [repeats.holds draws.yields entry mem] at isKey
    cases isKey
  rcases made : generate (.numbered []) listKeys {} session with ⟨result, last⟩
  rw [made] at ends
  cases ends with
  | enough areKeys reached =>
    rw [none areKeys] at reached
    exact absurd reached (by decide)
  | exhausted areKeys short tried =>
    rw [none areKeys] at tried
    exact absurd tried (by decide)
  | refused => exact ⟨_, _, rfl, rfl⟩
  | failed _ _ _ fails =>
    obtain ⟨drawn, next, given, _⟩ := draws after
    cases given.symm.trans fails

end Specimen
