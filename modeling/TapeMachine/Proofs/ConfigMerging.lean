/-
What a configuration file sets.

The members of the file are laid over the defaults and then checked.  A key may be written
more than once, and keys may come in any order.  Only the last value of each key matters,
and the first key that is not known.

* **`Config.lookup_laid`** — each key has its last value or else its default;
* **`Config.Acceptable`** — what members must satisfy;
* **`Config.FirstFault`** — what is reported of members that do not;
* **`Config.acceptable_or_firstFault`** — there is no third case;
* **`Config.override_of_acceptable`**, **`Config.override_eq_error_iff`** — what comes of members
  that are laid over the defaults;
* **`Config.override_congr`** — what their order can change;
* **`Config.load_sets_last_values`** — loading a file.
-/
import TapeMachine.Proofs.ConfigLoading
import TapeMachine.Proofs.JsonMembers

namespace TapeMachine.Config

open Json (Value)

open TapeMachine.Action World

variable {ps : List (String × Value)}

/-- The value that is written last for a key. -/
def lastWritten? (ps : List (String × Value)) (key : String) : Option Value :=
  ps.reverse.lookup key

/-- The value of a key in the end: the one written last, or the default. -/
def settled? (ps : List (String × Value)) (key : String) : Option Value :=
  (lastWritten? ps key).or (({} : Config).members.lookup key)

/-- Members laid over the defaults. -/
def laid (ps : List (String × Value)) : List (String × Value) :=
  Json.mergeMembers (({} : Config).members ++ Json.mergeMembers ps)

theorem override_mergeMembers (ps : List (String × Value)) :
    override (Json.mergeMembers ps) = ofMembers (laid ps) :=
  rfl

/-! ### What is checked -/

/-- A key of the schema. -/
def KnownKey (key : String) : Prop :=
  key ∈ schema.map (·.1)

def KeysKnown (ps : List (String × Value)) : Prop :=
  ∀ m ∈ ps, KnownKey m.1

/-- Whether a key is not written, or last with a value of the kind that the schema asks for. -/
def OfKind (ps : List (String × Value)) (entry : String × String) : Prop :=
  ∀ v, lastWritten? ps entry.1 = some v → v.kindName = entry.2

def KindsFit (ps : List (String × Value)) : Prop :=
  ∀ entry ∈ schema, OfKind ps entry

def PolicyExists (ps : List (String × Value)) : Prop :=
  ∀ name, lastWritten? ps "tape_overflow" = some (.str name) → name = "error" ∨ name = "extend"

def LimitAllowed (ps : List (String × Value)) : Prop :=
  ∀ i, lastWritten? ps "max_steps" = some (.int i) → 0 ≤ i

/-- What members must satisfy. -/
structure Acceptable (ps : List (String × Value)) : Prop where
  keys : KeysKnown ps
  kinds : KindsFit ps
  policy : PolicyExists ps
  limit : LimitAllowed ps

/-- The fault that is reported: the first unknown key in the order of writing, then the first wrong
kind in the order of the schema, then the policy, then the limit. -/
inductive FirstFault (ps : List (String × Value)) : ConfigFault → Prop
  | unknownKey {before after : List (String × Value)} {key : String} {v : Value}
      (hps : ps = before ++ (key, v) :: after) (hbefore : KeysKnown before)
      (hkey : ¬KnownKey key) : FirstFault ps (.unknownKey key)
  | wrongKind {before after : List (String × String)} {key kind : String} {v : Value}
      (hkeys : KeysKnown ps) (hschema : schema = before ++ (key, kind) :: after)
      (hbefore : ∀ entry ∈ before, OfKind ps entry) (hlast : lastWritten? ps key = some v)
      (hkind : v.kindName ≠ kind) : FirstFault ps (.wrongKind key kind v.kindName)
  | unknownPolicy (hkeys : KeysKnown ps) (hkinds : KindsFit ps) (hpolicy : ¬PolicyExists ps) :
      FirstFault ps .unknownPolicy
  | negativeLimit (hkeys : KeysKnown ps) (hkinds : KindsFit ps) (hpolicy : PolicyExists ps)
      (hlimit : ¬LimitAllowed ps) : FirstFault ps .negativeLimit

/-! ### Members over the defaults -/

theorem lookup_laid (ps : List (String × Value)) (key : String) :
    (laid ps).lookup key = settled? ps key := by
  have hdefaults : Json.mergeMembers ({} : Config).members = ({} : Config).members :=
    Json.mergeMembers_eq_self (by decide)
  rw [laid, Json.lookup_mergeMembers, List.reverse_append, List.lookup_append,
    ← Json.lookup_mergeMembers, ← Json.lookup_mergeMembers, hdefaults,
    Json.mergeMembers_eq_self (Json.nodup_keys_mergeMembers ps), Json.lookup_mergeMembers]
  rfl

theorem unknownKey?_eq (ms : List (String × Value)) :
    unknownKey? ms = (ms.map (·.1)).find? fun key => (schema.lookup key).isNone := by
  rw [List.find?_map]
  rfl

/-- All keys of the defaults are known, so the first unknown one is that of the members. -/
theorem unknownKey?_laid (ps : List (String × Value)) : unknownKey? (laid ps) = unknownKey? ps := by
  have hdefaults : (({} : Config).members.map (·.1)).find?
      (fun key => (schema.lookup key).isNone) = none := by decide
  rw [unknownKey?_eq, laid, Json.find?_keys_mergeMembers, List.map_append, List.find?_append,
    hdefaults, Option.none_or, Json.find?_keys_mergeMembers, unknownKey?_eq]

theorem lookup_eq_none_of_ne {β : Type} {ms : List (String × β)} {key : String}
    (h : ∀ m ∈ ms, m.1 ≠ key) : ms.lookup key = none :=
  List.lookup_eq_none_iff.2 fun m hm => bne_iff_ne.2 (h m hm).symm

theorem lookup_isNone_iff {key : String} : (schema.lookup key).isNone ↔ ¬KnownKey key := by
  rw [Option.isNone_iff_eq_none, KnownKey, List.mem_map]
  constructor
  · rintro h ⟨entry, hentry, rfl⟩
    have hne := List.lookup_eq_none_iff.1 h entry hentry
    simp at hne
  · intro h
    exact lookup_eq_none_of_ne fun entry hentry heq => h ⟨entry, hentry, heq⟩

theorem unknownKey?_eq_none_iff : unknownKey? ps = none ↔ KeysKnown ps := by
  rw [unknownKey?, Option.map_eq_none_iff, List.find?_eq_none, KeysKnown]
  refine forall₂_congr fun m _ => ?_
  rw [lookup_isNone_iff, not_not]

theorem unknownKey?_laid_eq_none (h : KeysKnown ps) : unknownKey? (laid ps) = none :=
  (unknownKey?_laid ps).trans (unknownKey?_eq_none_iff.2 h)

theorem unknownKey?_eq_some {before after : List (String × Value)} {key : String} {v : Value}
    (hbefore : KeysKnown before) (hkey : ¬KnownKey key) :
    unknownKey? (before ++ (key, v) :: after) = some key := by
  have hnone := unknownKey?_eq_none_iff.2 hbefore
  rw [unknownKey?, Option.map_eq_none_iff] at hnone
  have hnew : (schema.lookup key).isNone = true := lookup_isNone_iff.2 hkey
  rw [unknownKey?, List.find?_append, hnone, Option.none_or, List.find?_cons, hnew]
  rfl

/-- The defaults have a value of the right kind for every key of the schema. -/
theorem default_of_mem {entry : String × String} (h : entry ∈ schema) :
    ∃ v, ({} : Config).members.lookup entry.1 = some v ∧ v.kindName = entry.2 := by
  simp only [schema, List.mem_cons, List.not_mem_nil, or_false] at h
  rcases h with rfl | rfl | rfl | rfl | rfl
  · exact ⟨_, rfl, rfl⟩
  · exact ⟨_, rfl, rfl⟩
  · exact ⟨_, rfl, rfl⟩
  · exact ⟨_, rfl, rfl⟩
  · exact ⟨_, rfl, rfl⟩

/-- So a key of the schema has a value of the right kind if nothing else is written for it. -/
theorem settled?_of_ofKind {entry : String × String} (hentry : entry ∈ schema)
    (h : OfKind ps entry) : ∃ v, settled? ps entry.1 = some v ∧ v.kindName = entry.2 := by
  rw [settled?]
  cases hlast : lastWritten? ps entry.1 with
  | none => exact default_of_mem hentry
  | some v => exact ⟨v, rfl, h v hlast⟩

theorem settled?_of_lastWritten {key : String} {v : Value} (h : lastWritten? ps key = some v) :
    settled? ps key = some v := by
  rw [settled?, h, Option.some_or]

/-! ### The checks one after the other -/

theorem typed_laid {key kind : String} {v : Value} (hv : settled? ps key = some v)
    (hkind : v.kindName = kind) : typed (laid ps) key kind = .ok v := by
  rw [typed, lookup_laid, hv]
  exact if_pos hkind

theorem typedAll_eq_error {ms : List (String × Value)} {before after : List (String × String)}
    {key kind : String} {f : ConfigFault}
    (hbefore : ∀ entry ∈ before, ∃ v, typed ms entry.1 entry.2 = .ok v)
    (h : typed ms key kind = .error f) :
    typedAll ms (before ++ (key, kind) :: after) = .error f := by
  induction before with
  | nil => rw [List.nil_append, typedAll, h]
  | cons entry before ih =>
    obtain ⟨v, hv⟩ := hbefore entry List.mem_cons_self
    rw [List.cons_append, typedAll, hv, ih fun e he => hbefore e (List.mem_cons_of_mem entry he)]

theorem kindName_eq_str_iff {v : Value} : v.kindName = "str" ↔ ∃ s, v = .str s := by
  cases v <;> simp [Value.kindName]

theorem kindName_eq_int_iff {v : Value} : v.kindName = "int" ↔ ∃ i, v = .int i := by
  cases v <;> simp [Value.kindName]

theorem kindName_eq_bool_iff {v : Value} : v.kindName = "bool" ↔ ∃ b, v = .bool b := by
  cases v <;> simp [Value.kindName]

/-- Five values, one for each key of the schema and of its kind. -/
structure Settled (ps : List (String × Value)) (policy : String) (limit : Int) (logRuns : Bool)
    (directory filePrefix : String) : Prop where
  policy_eq : settled? ps "tape_overflow" = some (.str policy)
  limit_eq : settled? ps "max_steps" = some (.int limit)
  logRuns_eq : settled? ps "log_runs" = some (.bool logRuns)
  directory_eq : settled? ps "output_directory" = some (.str directory)
  filePrefix_eq : settled? ps "log_file_prefix" = some (.str filePrefix)

theorem exists_settled (h : KindsFit ps) :
    ∃ policy limit logRuns directory filePrefix,
      Settled ps policy limit logRuns directory filePrefix := by
  have hsettled : ∀ entry ∈ schema, ∃ v, settled? ps entry.1 = some v ∧ v.kindName = entry.2 :=
    fun entry hentry => settled?_of_ofKind hentry (h entry hentry)
  obtain ⟨v₁, h₁, hkind₁⟩ := hsettled ("tape_overflow", "str") (by simp [schema])
  obtain ⟨v₂, h₂, hkind₂⟩ := hsettled ("max_steps", "int") (by simp [schema])
  obtain ⟨v₃, h₃, hkind₃⟩ := hsettled ("log_runs", "bool") (by simp [schema])
  obtain ⟨v₄, h₄, hkind₄⟩ := hsettled ("output_directory", "str") (by simp [schema])
  obtain ⟨v₅, h₅, hkind₅⟩ := hsettled ("log_file_prefix", "str") (by simp [schema])
  obtain ⟨policy, rfl⟩ := kindName_eq_str_iff.1 hkind₁
  obtain ⟨limit, rfl⟩ := kindName_eq_int_iff.1 hkind₂
  obtain ⟨logRuns, rfl⟩ := kindName_eq_bool_iff.1 hkind₃
  obtain ⟨directory, rfl⟩ := kindName_eq_str_iff.1 hkind₄
  obtain ⟨filePrefix, rfl⟩ := kindName_eq_str_iff.1 hkind₅
  exact ⟨policy, limit, logRuns, directory, filePrefix, h₁, h₂, h₃, h₄, h₅⟩

section

variable {policy directory filePrefix : String} {limit : Int} {logRuns : Bool}

/-- Behind the checks of keys and kinds, the policy and the limit are left to check. -/
theorem ofMembers_laid (hkeys : KeysKnown ps)
    (h : Settled ps policy limit logRuns directory filePrefix) :
    ofMembers (laid ps) =
      ofValues [.str policy, .int limit, .bool logRuns, .str directory, .str filePrefix] := by
  have hunknown : unknownKey? (laid ps) = none := unknownKey?_laid_eq_none hkeys
  have h₁ : typed (laid ps) "tape_overflow" "str" = _ := typed_laid h.policy_eq rfl
  have h₂ : typed (laid ps) "max_steps" "int" = _ := typed_laid h.limit_eq rfl
  have h₃ : typed (laid ps) "log_runs" "bool" = _ := typed_laid h.logRuns_eq rfl
  have h₄ : typed (laid ps) "output_directory" "str" = _ := typed_laid h.directory_eq rfl
  have h₅ : typed (laid ps) "log_file_prefix" "str" = _ := typed_laid h.filePrefix_eq rfl
  rw [ofMembers, hunknown]
  simp only [schema, typedAll, h₁, h₂, h₃, h₄, h₅]

theorem ofName?_eq_none_iff {name : String} :
    Overflow.ofName? name = none ↔ ¬(name = "error" ∨ name = "extend") := by
  rw [Overflow.ofName?, List.find?_eq_none]
  simp [Overflow.all, Overflow.name, eq_comm]

/-- The default policy exists, so only a policy that is written can fail to. -/
theorem policyExists_iff (h : Settled ps policy limit logRuns directory filePrefix) :
    PolicyExists ps ↔ policy = "error" ∨ policy = "extend" := by
  constructor
  · intro hexists
    obtain hlast | ⟨-, hdefault⟩ := Option.or_eq_some_iff.1 h.policy_eq
    · exact hexists policy hlast
    · cases hdefault
      exact .inl rfl
  · intro hpolicy name hname
    cases (settled?_of_lastWritten hname).symm.trans h.policy_eq
    exact hpolicy

/-- The default limit is not negative, so only a limit that is written can be. -/
theorem limitAllowed_iff (h : Settled ps policy limit logRuns directory filePrefix) :
    LimitAllowed ps ↔ 0 ≤ limit := by
  constructor
  · intro hallowed
    obtain hlast | ⟨-, hdefault⟩ := Option.or_eq_some_iff.1 h.limit_eq
    · exact hallowed limit hlast
    · cases hdefault
      exact Int.le_refl 0
  · intro hlimit i hi
    cases (settled?_of_lastWritten hi).symm.trans h.limit_eq
    exact hlimit

/-- The members of the configuration that is accepted, key by key. -/
theorem lookup_members_of_settled (hkeys : KeysKnown ps) {p : Overflow} {n : Nat}
    (h : Settled ps p.name n logRuns directory filePrefix) (key : String) :
    (Config.members { policy := p, maxSteps := n, logRuns, outputDirectory := directory,
                      logFilePrefix := filePrefix }).lookup key = settled? ps key := by
  by_cases hkey : KnownKey key
  · obtain ⟨entry, hentry, rfl⟩ := List.mem_map.1 hkey
    simp only [schema, List.mem_cons, List.not_mem_nil, or_false] at hentry
    rcases hentry with rfl | rfl | rfl | rfl | rfl
    · exact h.policy_eq.symm
    · exact h.limit_eq.symm
    · exact h.logRuns_eq.symm
    · exact h.directory_eq.symm
    · exact h.filePrefix_eq.symm
  · -- Neither the schema has this key, nor do the defaults or the members.
    have hnone : ∀ c : Config, c.members.lookup key = none := by
      intro c
      refine lookup_eq_none_of_ne ?_
      rintro m hm rfl
      have hmem : m.1 ∈ c.members.map (·.1) := List.mem_map_of_mem hm
      exact hkey hmem
    have hlast : lastWritten? ps key = none := by
      refine lookup_eq_none_of_ne ?_
      rintro m hm rfl
      exact hkey (hkeys m (List.mem_reverse.1 hm))
    rw [hnone, settled?, hlast, hnone]
    rfl

end

/-! ### Acceptance and refusal -/

theorem override_of_acceptable (h : Acceptable ps) :
    ∃ c, override (Json.mergeMembers ps) = .ok c ∧
      ∀ key, c.members.lookup key = settled? ps key := by
  obtain ⟨policy, limit, logRuns, directory, filePrefix, hsettled⟩ := exists_settled h.kinds
  obtain ⟨p, hp⟩ : ∃ p : Overflow, p.name = policy := by
    obtain rfl | rfl := (policyExists_iff hsettled).1 h.policy
    · exact ⟨.error, rfl⟩
    · exact ⟨.extend, rfl⟩
  obtain ⟨n, rfl⟩ := Int.eq_ofNat_of_zero_le ((limitAllowed_iff hsettled).1 h.limit)
  subst hp
  refine ⟨_, ?_, lookup_members_of_settled h.keys hsettled⟩
  rw [override_mergeMembers, ofMembers_laid h.keys hsettled, ofValues, Overflow.ofName?_name]
  exact if_neg (Int.not_lt.2 (Int.natCast_nonneg n))

/-- A kind that is wrong is reported if those before it in the schema are right. -/
theorem override_of_wrongKind {before after : List (String × String)} {key kind : String}
    {v : Value} (hkeys : KeysKnown ps) (hschema : schema = before ++ (key, kind) :: after)
    (hbefore : ∀ entry ∈ before, OfKind ps entry) (hlast : lastWritten? ps key = some v)
    (hkind : v.kindName ≠ kind) :
    override (Json.mergeMembers ps) = .error (.wrongKind key kind v.kindName) := by
  have hunknown : unknownKey? (laid ps) = none := unknownKey?_laid_eq_none hkeys
  have hfault : typed (laid ps) key kind = .error (.wrongKind key kind v.kindName) := by
    rw [typed, lookup_laid, settled?_of_lastWritten hlast]
    exact if_neg hkind
  have htyped : ∀ entry ∈ before, ∃ v, typed (laid ps) entry.1 entry.2 = .ok v := by
    intro entry hentry
    have hmem : entry ∈ schema := by
      rw [hschema]
      exact List.mem_append_left _ hentry
    obtain ⟨v, hv, hkind⟩ := settled?_of_ofKind hmem (hbefore entry hentry)
    exact ⟨v, typed_laid hv hkind⟩
  rw [override_mergeMembers, ofMembers, hunknown, hschema, typedAll_eq_error htyped hfault]

theorem override_of_firstFault {f : ConfigFault} (h : FirstFault ps f) :
    override (Json.mergeMembers ps) = .error f := by
  cases h with
  | unknownKey hps hbefore hkey =>
    have hunknown := unknownKey?_laid ps
    rw [hps, unknownKey?_eq_some hbefore hkey] at hunknown
    rw [override_mergeMembers, hps, ofMembers, hunknown]
  | wrongKind hkeys hschema hbefore hlast hkind =>
    exact override_of_wrongKind hkeys hschema hbefore hlast hkind
  | unknownPolicy hkeys hkinds hpolicy =>
    obtain ⟨policy, limit, logRuns, directory, filePrefix, hsettled⟩ := exists_settled hkinds
    rw [policyExists_iff hsettled] at hpolicy
    rw [override_mergeMembers, ofMembers_laid hkeys hsettled, ofValues,
      ofName?_eq_none_iff.2 hpolicy]
  | negativeLimit hkeys hkinds hpolicy hlimit =>
    obtain ⟨policy, limit, logRuns, directory, filePrefix, hsettled⟩ := exists_settled hkinds
    rw [limitAllowed_iff hsettled, Int.not_le] at hlimit
    rw [override_mergeMembers, ofMembers_laid hkeys hsettled, ofValues]
    rcases hname : Overflow.ofName? policy with _ | p
    · exact absurd ((policyExists_iff hsettled).1 hpolicy) (ofName?_eq_none_iff.1 hname)
    · exact if_pos hlimit

/-- In a list, either all satisfy a property, or one is the first that does not. -/
theorem forall_or_first {α : Type} (P : α → Prop) (l : List α) :
    (∀ a ∈ l, P a) ∨ ∃ before a after, l = before ++ a :: after ∧ (∀ b ∈ before, P b) ∧ ¬P a := by
  classical
  rcases hfind : l.find? fun a => !decide (P a) with _ | a
  · left
    simpa using hfind
  · right
    obtain ⟨ha, before, after, hl, hbefore⟩ := List.find?_eq_some_iff_append.1 hfind
    exact ⟨before, a, after, hl, by simpa using hbefore, by simpa using ha⟩

/-- Members are acceptable or have a first fault. -/
theorem acceptable_or_firstFault (ps : List (String × Value)) :
    Acceptable ps ∨ ∃ f, FirstFault ps f := by
  obtain hkeys | ⟨before, m, after, hps, hbefore, hkey⟩ :=
    forall_or_first (fun m => KnownKey m.1) ps
  swap
  · exact .inr ⟨_, .unknownKey hps hbefore hkey⟩
  obtain hkinds | ⟨before, entry, after, hschema, hbefore, hkind⟩ :=
    forall_or_first (OfKind ps) schema
  swap
  · obtain ⟨v, hv⟩ := not_forall.1 hkind
    obtain ⟨hlast, hne⟩ := Classical.not_imp.1 hv
    exact .inr ⟨_, .wrongKind hkeys hschema hbefore hlast hne⟩
  by_cases hpolicy : PolicyExists ps
  · by_cases hlimit : LimitAllowed ps
    · exact .inl ⟨hkeys, hkinds, hpolicy, hlimit⟩
    · exact .inr ⟨_, .negativeLimit hkeys hkinds hpolicy hlimit⟩
  · exact .inr ⟨_, .unknownPolicy hkeys hkinds hpolicy⟩

theorem override_eq_error_iff {f : ConfigFault} :
    override (Json.mergeMembers ps) = .error f ↔ FirstFault ps f := by
  constructor
  · intro h
    obtain hacceptable | ⟨f', hfault⟩ := acceptable_or_firstFault ps
    · obtain ⟨c, hc, -⟩ := override_of_acceptable hacceptable
      cases h.symm.trans hc
    · cases h.symm.trans (override_of_firstFault hfault)
      exact hfault
  · exact override_of_firstFault

/-- What is accepted has the last value of each key or else its default. -/
theorem override_eq_ok {c : Config} (h : override (Json.mergeMembers ps) = .ok c) :
    Acceptable ps ∧ ∀ key, c.members.lookup key = settled? ps key := by
  obtain hacceptable | ⟨f, hfault⟩ := acceptable_or_firstFault ps
  · obtain ⟨c', hc', hmembers⟩ := override_of_acceptable hacceptable
    cases h.symm.trans hc'
    exact ⟨hacceptable, hmembers⟩
  · cases h.symm.trans (override_of_firstFault hfault)

/-! ### The order of the members -/

theorem typedAll_congr {ms ms' : List (String × Value)} (entries : List (String × String))
    (h : ∀ entry ∈ entries, ms.lookup entry.1 = ms'.lookup entry.1) :
    typedAll ms entries = typedAll ms' entries := by
  induction entries with
  | nil => rfl
  | cons entry rest ih =>
    have hfirst : typed ms entry.1 entry.2 = typed ms' entry.1 entry.2 := by
      rw [typed, typed, h entry List.mem_cons_self]
    rw [typedAll, typedAll, hfirst, ih fun e he => h e (List.mem_cons_of_mem entry he)]

/-- Only the first unknown key and the last values of the known keys matter. -/
theorem override_congr {qs : List (String × Value)} (hunknown : unknownKey? qs = unknownKey? ps)
    (hlast : ∀ key, KnownKey key → lastWritten? qs key = lastWritten? ps key) :
    override (Json.mergeMembers qs) = override (Json.mergeMembers ps) := by
  have htyped : typedAll (laid qs) schema = typedAll (laid ps) schema := by
    refine typedAll_congr schema fun entry hentry => ?_
    rw [lookup_laid, lookup_laid, settled?, settled?, hlast _ (List.mem_map_of_mem hentry)]
  rw [override_mergeMembers, override_mergeMembers, ofMembers, ofMembers, unknownKey?_laid,
    unknownKey?_laid, hunknown, htyped]

/-! ### Loading -/

theorem mapError_eq_ok_iff {ε ε' α : Type} {g : ε → ε'} {r : Except ε α} {x : α} :
    r.mapError g = .ok x ↔ r = .ok x := by
  cases r <;> simp [Except.mapError]

theorem mapError_eq_error_iff {ε ε' α : Type} {g : ε → ε'} {r : Except ε α} {e' : ε'} :
    r.mapError g = .error e' ↔ ∃ e, r = .error e ∧ e' = g e := by
  cases r <;> simp [Except.mapError, eq_comm]

/-- The members of a file decide what is loaded. -/
theorem perform_load_of_holds {w : World} {path text : String} {bytes : List UInt8}
    (hfinds : Finds w path bytes) (htext : decodeText bytes = .ok text)
    (hdepth : Json.tooDeep? w.depths.parts text.toList = none) (hps : Json.Holds text.toList ps) :
    w.perform (load (some path)) =
      ((override (Json.mergeMembers ps)).mapError fun f => .failure (.badConfig f.reason), w) := by
  have hread : Json.read text.toList = .ok (.object (Json.mergeMembers ps)) :=
    Json.read_eq_object_iff.2 ⟨ps, hps, rfl⟩
  rw [perform_load_of_finds hfinds, htext]
  simp only [ofText, hdepth, hread]

/-- **A configuration file sets last values over the defaults.**  Let a file hold members, under any
keys, repeated or not, and in any order, and nested no deeper than the world can follow.

A configuration is loaded if and only if the members are acceptable, and then it has the five keys
of the schema, each with the value that is written last for it, or else with its default.  If they
are not, the configuration is reported as bad, and the reason is their first fault.  In either case
nothing changes, and loading without a file goes on to give the defaults.  Another file that agrees
in the first unknown key and in the last values of the known ones gives the same result, so it does
not matter in what order the known keys come. -/
theorem load_sets_last_values {w : World} {path text : String} {bytes : List UInt8}
    {ps : List (String × Value)} (hfinds : Finds w path bytes)
    (htext : decodeText bytes = .ok text)
    (hdepth : Json.tooDeep? w.depths.parts text.toList = none) (hps : Json.Holds text.toList ps) :
    ((∃ c, (w.perform (load (some path))).1 = .ok c) ↔ Acceptable ps) ∧
      (∀ c, (w.perform (load (some path))).1 = .ok c →
        c.members.map (·.1) = schema.map (·.1) ∧
          ∀ key, c.members.lookup key =
            (lastWritten? ps key).or (({} : Config).members.lookup key)) ∧
      (∀ p, (w.perform (load (some path))).1 = .error p ↔
        ∃ f, FirstFault ps f ∧ p = .failure (.badConfig f.reason)) ∧
      (w.perform (load (some path))).2.perform (load none) = (.ok {}, w) ∧
      (∀ (w' : World) (path' text' : String) (bytes' : List UInt8) (qs : List (String × Value)),
        Finds w' path' bytes' → decodeText bytes' = .ok text' →
        Json.tooDeep? w'.depths.parts text'.toList = none → Json.Holds text'.toList qs →
        unknownKey? qs = unknownKey? ps →
        (∀ key, KnownKey key → lastWritten? qs key = lastWritten? ps key) →
        (w'.perform (load (some path'))).1 = (w.perform (load (some path))).1) := by
  rw [perform_load_of_holds hfinds htext hdepth hps]
  refine ⟨⟨?_, ?_⟩, ?_, fun p => ⟨?_, ?_⟩, rfl, ?_⟩
  · rintro ⟨c, hc⟩
    exact (override_eq_ok (mapError_eq_ok_iff.1 hc)).1
  · intro hacceptable
    obtain ⟨c, hc, -⟩ := override_of_acceptable hacceptable
    exact ⟨c, mapError_eq_ok_iff.2 hc⟩
  · intro c hc
    exact ⟨rfl, (override_eq_ok (mapError_eq_ok_iff.1 hc)).2⟩
  · intro hp
    obtain ⟨f, hf, rfl⟩ := mapError_eq_error_iff.1 hp
    exact ⟨f, override_eq_error_iff.1 hf, rfl⟩
  · rintro ⟨f, hfault, rfl⟩
    exact mapError_eq_error_iff.2 ⟨f, override_eq_error_iff.2 hfault, rfl⟩
  · intro w' path' text' bytes' qs hfinds' htext' hdepth' hqs hunknown hlast
    rw [perform_load_of_holds hfinds' htext' hdepth' hqs, override_congr hunknown hlast]

/-- A value of the wrong kind does not matter if another one is written after it. -/
theorem load_sets_last_values_of_repeated_key :
    let ps := [("log_runs", Value.int 1), ("max_steps", .int 5), ("log_runs", .bool true)]
    let text := String.ofList ('\x7b' :: (Json.writeMembers ps ++ ['\x7d']))
    let w : World :=
      { tree := ⟨[(["c"], .file (Utf8.encode text))]⟩, cwd := []
        clock := ⟨2024, 5, 17, 9, 30, 0, 0⟩ }
    ∃ c, (w.perform (load (some "c"))).1 = .ok c ∧
      c.members.lookup "log_runs" = some (.bool true) ∧
      (w.perform (load (some "c"))).2.perform (load none) = (.ok {}, w) := by
  intro ps text w
  have hfinds : Finds w "c" (Utf8.encode text) := ⟨by decide +kernel, rfl⟩
  have htext : decodeText (Utf8.encode text) = .ok text := by decide +kernel
  have hdepth : Json.tooDeep? w.depths.parts text.toList = none := by decide +kernel
  have hps : Json.Holds text.toList ps := by
    rw [String.toList_ofList]
    have hone : (Nat.toDigits 10 1).length ≤ Json.maxIntegerDigits := by decide +kernel
    have hfive : (Nat.toDigits 10 5).length ≤ Json.maxIntegerDigits := by decide +kernel
    exact Json.holds_write ⟨hone, hfive, trivial, trivial⟩
  have hset : override (Json.mergeMembers ps) = .ok { maxSteps := 5, logRuns := true } := by
    decide +kernel
  obtain ⟨haccept, hvalues, -, hlater, -⟩ := load_sets_last_values hfinds htext hdepth hps
  obtain ⟨c, hc⟩ := haccept.2 (override_eq_ok hset).1
  exact ⟨c, hc, (hvalues c hc).2 "log_runs", hlater⟩

end TapeMachine.Config
