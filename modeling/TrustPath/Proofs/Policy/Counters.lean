import Mathlib.Logic.Basic
import TrustPath.Policy.Processing
import TrustPath.Proofs.Outcome
import TrustPath.Proofs.Policy.AnyLevels

/-!
# The counters of policy processing

Three counters run along a path: until an explicit policy is required,
until mapping is inhibited and until `anyPolicy` is inhibited. A counter
that is not set from the start exceeds the path. Each certificate uses it
before it has its own say: above the target it then takes a step off, if
it counts, and lowers the counter to a bound of its own.

None of this shows from outside. A counter is used up at a certificate
exactly when it was set from the start, or when some certificate above
set a bound that is no more than the number of certificates between the
two that count (`counterAfter_le_iff`, `PolicyStatement.Expired`). The
start value never runs out by itself, because there are too few
certificates, and the last look, which takes one step more, has one in
hand (`usedUp_iff`).

`counters_exact` says what follows for the processing: which certificate
demands a policy, where the tree grows by `anyPolicy` and is changed by
mappings, and when the final state demands one.
-/

namespace TrustPath

namespace PolicyStatement

/-- The certificates that count: those that their subject did not issue
itself. -/
def steps (path : List PolicyStatement) : Nat := path.countP fun c => !c.selfIssued

theorem steps_cons (c : PolicyStatement) (path : List PolicyStatement) :
    steps (c :: path) = steps path + if c.selfIssued then 0 else 1 := by
  rw [steps, steps, List.countP_cons]
  cases c.selfIssued <;> rfl

/-- One of some certificates in a row set a bound, and as many as that,
or all but `slack`, count after it. -/
def Expired (bound : PolicyStatement → Option Nat) (slack : Nat) (upper : List PolicyStatement) :
    Prop :=
  ∃ above c below, upper = above ++ c :: below ∧ ∃ b ∈ bound c, b ≤ steps below + slack

theorem expired_nil {bound : PolicyStatement → Option Nat} {slack : Nat} :
    ¬ Expired bound slack [] := by
  rintro ⟨above, c, below, hsplit, -⟩
  exact absurd hsplit (by simp)

theorem expired_cons {bound : PolicyStatement → Option Nat} {slack : Nat} {c : PolicyStatement}
    {upper : List PolicyStatement} :
    Expired bound slack (c :: upper) ↔
      (∃ b ∈ bound c, b ≤ steps upper + slack) ∨ Expired bound slack upper := by
  constructor
  · rintro ⟨above, d, below, hsplit, hbound⟩
    rcases List.cons_eq_append_iff.mp hsplit with ⟨rfl, heq⟩ | ⟨above, rfl, hrest⟩
    · obtain ⟨rfl, rfl⟩ := List.cons.inj heq
      exact Or.inl hbound
    · exact Or.inr ⟨above, d, below, hrest, hbound⟩
  · rintro (hbound | ⟨above, d, below, rfl, hbound⟩)
    · exact ⟨[], c, upper, rfl, hbound⟩
    · exact ⟨c :: above, d, below, rfl, hbound⟩

instance decidableExpired (bound : PolicyStatement → Option Nat) (slack : Nat) :
    (upper : List PolicyStatement) → Decidable (Expired bound slack upper)
  | [] => isFalse expired_nil
  | _ :: upper =>
    have := decidableExpired bound slack upper
    decidable_of_iff _ expired_cons.symm

end PolicyStatement

namespace PolicyState

open PolicyStatement (steps steps_cons Expired expired_nil expired_cons)

/-! ## One counter -/

theorem limit_le_iff {counter k : Nat} {bound : Option Nat} :
    limit counter bound ≤ k ↔ counter ≤ k ∨ ∃ b ∈ bound, b ≤ k := by
  cases bound with
  | none => simp [limit]
  | some b =>
      simp only [limit, Option.mem_some_iff, exists_eq_left']
      omega

/-- A counter after some certificates above the target. -/
def counterAfter (bound : PolicyStatement → Option Nat) (counter : Nat) :
    List PolicyStatement → Nat
  | [] => counter
  | c :: rest =>
    counterAfter bound (limit (counter - if c.selfIssued then 0 else 1) (bound c)) rest

/-- A counter in closed form. The induction is on the certificates; taking
a step off a counter at zero leaves it there, which no bound from below
tells apart. -/
theorem counterAfter_le_iff {bound : PolicyStatement → Option Nat} {k : Nat} :
    ∀ {upper : List PolicyStatement} {counter : Nat},
      counterAfter bound counter upper ≤ k ↔
        counter ≤ steps upper + k ∨ Expired bound k upper
  | [], counter => by
      simp [counterAfter, steps, expired_nil]
  | c :: upper, counter => by
      rw [counterAfter, counterAfter_le_iff, limit_le_iff, expired_cons, steps_cons, or_assoc]
      refine or_congr_left ?_
      omega

/-- A counter on a path is used up, or nearly so, when it was set from the
start or a bound above ran out. -/
theorem usedUp_iff {bound : PolicyStatement → Option Nat} {slack n : Nat} {set : Bool}
    {upper : List PolicyStatement} (hshort : upper.length + slack ≤ n) :
    counterAfter bound (if set then 0 else n + 1) upper ≤ slack ↔
      set = true ∨ Expired bound slack upper := by
  have hsteps : steps upper ≤ upper.length := List.countP_le_length
  rw [counterAfter_le_iff]
  refine or_congr_left ?_
  cases set with
  | true => simp
  | false =>
      rw [if_neg Bool.false_ne_true]
      refine iff_of_false ?_ Bool.false_ne_true
      omega

/-- It lasts when it was not set and no bound above ran out. -/
theorem lasts_iff {bound : PolicyStatement → Option Nat} {n : Nat} {set : Bool}
    {upper : List PolicyStatement} (hshort : upper.length ≤ n) :
    0 < counterAfter bound (if set then 0 else n + 1) upper ↔
      set = false ∧ ¬ Expired bound 0 upper := by
  rw [← Nat.not_le, usedUp_iff hshort, not_or, Bool.not_eq_true]

/-! ## The counters along a path -/

/-- Process certificates above the target, the first of which stands at a
position. -/
def pass (s : PolicyState) (position : Nat) :
    List PolicyStatement → Except PolicyFault PolicyState
  | [] => .ok s
  | c :: rest => do
    let s ← s.enter c position false
    (← s.leave c).pass (position + 1) rest

/-- The processing reaches a certificate after those above it. -/
theorem run_append (upper : List PolicyStatement) (c : PolicyStatement)
    (lower : List PolicyStatement) : ∀ (s : PolicyState) (position : Nat),
      s.run position (upper ++ c :: lower)
        = s.pass position upper >>= fun s => s.run (position + upper.length) (c :: lower) := by
  induction upper with
  | nil => exact fun s position => rfl
  | cons u upper ih =>
      intro s position
      obtain ⟨next, rest, hrest⟩ : ∃ next rest, upper ++ c :: lower = next :: rest := by
        cases upper with
        | nil => exact ⟨c, lower, rfl⟩
        | cons v vs => exact ⟨v, vs ++ c :: lower, rfl⟩
      have hlength : position + (u :: upper).length = position + 1 + upper.length := by
        rw [List.length_cons]
        omega
      rw [List.cons_append, hrest, run, ← hrest, pass, hlength]
      simp only [ih, bind_assoc]
      exact fun heq => absurd heq (List.cons_ne_nil _ _)

/-- The counters of two states are the same. -/
structure SameCounters (s s' : PolicyState) : Prop where
  explicitPolicy : s'.explicitPolicy = s.explicitPolicy
  policyMapping : s'.policyMapping = s.policyMapping
  inhibitAnyPolicy : s'.inhibitAnyPolicy = s.inhibitAnyPolicy

theorem enter_eq {s : PolicyState} {c : PolicyStatement} {policies : Option (List String)}
    (h : c.policies = .ok policies) (position : Nat) (isTarget : Bool) :
    s.enter c position isTarget =
      if (s.assert c isTarget policies).lacksPolicy then .error (.noneAt position)
      else .ok (s.assert c isTarget policies) := by
  rw [enter, h]
  rfl

/-- A policy is lacking after a certificate when the tree is gone and an
explicit policy is required now. -/
theorem lacksPolicy_assert {s : PolicyState} {c : PolicyStatement} {isTarget : Bool}
    {policies : Option (List String)} :
    (s.assert c isTarget policies).lacksPolicy = true ↔
      (s.assert c isTarget policies).tree = none ∧ s.explicitPolicy = 0 := by
  have hsame : (s.assert c isTarget policies).explicitPolicy = s.explicitPolicy := rfl
  rw [lacksPolicy, hsame, Bool.and_eq_true, decide_eq_true_eq, Option.isNone_iff_eq_none, and_comm]

theorem enter_eq_noneAt_iff {s : PolicyState} {c : PolicyStatement}
    {policies : Option (List String)} (h : c.policies = .ok policies) {position : Nat}
    {isTarget : Bool} :
    s.enter c position isTarget = .error (.noneAt position) ↔
      (s.assert c isTarget policies).tree = none ∧ s.explicitPolicy = 0 := by
  rw [enter_eq h, ← lacksPolicy_assert]
  split
  · next hlacks => exact iff_of_true rfl hlacks
  · next hlacks => exact iff_of_false nofun hlacks

/-- A certificate is entered with the counters as they were. -/
theorem enter_eq_ok {s s' : PolicyState} {c : PolicyStatement} {position : Nat} {isTarget : Bool}
    (h : s.enter c position isTarget = .ok s') :
    SameCounters s s' ∧ ∃ policies, c.policies = .ok policies := by
  cases hpolicies : c.policies with
  | error fault =>
      rw [enter, hpolicies] at h
      cases h
  | ok policies =>
      rw [enter_eq hpolicies] at h
      split at h
      · cases h
      · obtain rfl := Except.ok.inj h
        exact ⟨⟨rfl, rfl, rfl⟩, policies, rfl⟩

theorem map_sameCounters (s : PolicyState) (mappings : PolicyMappings) :
    SameCounters s (s.map mappings) := by
  unfold map
  split
  · exact ⟨rfl, rfl, rfl⟩
  · exact ⟨rfl, rfl, rfl⟩

/-- The counters of a state are those of another after some certificates. -/
structure Counts (s : PolicyState) (upper : List PolicyStatement) (s' : PolicyState) : Prop where
  explicitPolicy : s'.explicitPolicy = counterAfter (·.requireExplicit) s.explicitPolicy upper
  policyMapping : s'.policyMapping = counterAfter (·.inhibitMapping) s.policyMapping upper
  inhibitAnyPolicy : s'.inhibitAnyPolicy = counterAfter (·.inhibitAnyPolicy) s.inhibitAnyPolicy upper

theorem leave_eq_ok {s s' : PolicyState} {c : PolicyStatement} (h : s.leave c = .ok s') :
    Counts s [c] s' ∧ ∃ mappings, c.mappings = .ok mappings := by
  simp only [leave, bind_eq_ok, pure_eq_ok] at h
  obtain ⟨mappings, hmappings, rfl⟩ := h
  have hsame := s.map_sameCounters mappings
  refine ⟨⟨?_, ?_, ?_⟩, mappings, hmappings⟩
  · simp only [count, counterAfter, hsame.explicitPolicy]
  · simp only [count, counterAfter, hsame.policyMapping]
  · simp only [count, counterAfter, hsame.inhibitAnyPolicy]

/-- The counters with which a certificate is reached. -/
theorem counts_of_pass : ∀ {upper : List PolicyStatement} {s s' : PolicyState} {position : Nat},
    s.pass position upper = .ok s' → Counts s upper s'
  | [], s, s', position, h => by
      obtain rfl := Except.ok.inj h
      exact ⟨rfl, rfl, rfl⟩
  | c :: upper, s, s', position, h => by
      simp only [pass, bind_eq_ok] at h
      obtain ⟨entered, henter, left, hleave, hpass⟩ := h
      have hsame := (enter_eq_ok henter).1
      have hleft := (leave_eq_ok hleave).1
      have hrest := counts_of_pass hpass
      refine ⟨?_, ?_, ?_⟩
      · rw [hrest.explicitPolicy, hleft.explicitPolicy, hsame.explicitPolicy]
        rfl
      · rw [hrest.policyMapping, hleft.policyMapping, hsame.policyMapping]
        rfl
      · rw [hrest.inhibitAnyPolicy, hleft.inhibitAnyPolicy, hsame.inhibitAnyPolicy]
        rfl

/-! ## Paths that never demand a policy -/

/-- Everything that is read of the certificates of a path can be read:
their policies, and above the target their mappings. -/
def Readable (path : List PolicyStatement) : Prop :=
  (∀ c ∈ path, ∃ policies, c.policies = .ok policies)
    ∧ ∀ c ∈ path.dropLast, ∃ mappings, c.mappings = .ok mappings

theorem readable_cons_cons {c next : PolicyStatement} {rest : List PolicyStatement} :
    Readable (c :: next :: rest) ↔
      (∃ policies, c.policies = .ok policies) ∧ (∃ mappings, c.mappings = .ok mappings)
        ∧ Readable (next :: rest) := by
  unfold Readable
  rw [List.dropLast_cons_cons]
  constructor
  · rintro ⟨hpolicies, hmappings⟩
    obtain ⟨hc, hpolicies⟩ := List.forall_mem_cons.mp hpolicies
    obtain ⟨hc', hmappings⟩ := List.forall_mem_cons.mp hmappings
    exact ⟨hc, hc', hpolicies, hmappings⟩
  · rintro ⟨hc, hc', hpolicies, hmappings⟩
    exact ⟨List.forall_mem_cons.mpr ⟨hc, hpolicies⟩, List.forall_mem_cons.mpr ⟨hc', hmappings⟩⟩

/-- Where no policy is demanded, a certificate is entered if its policies
can be read. -/
theorem exists_enter_iff {s : PolicyState} (hpositive : 0 < s.explicitPolicy) (c : PolicyStatement)
    (position : Nat) (isTarget : Bool) :
    (∃ s', s.enter c position isTarget = .ok s') ↔ ∃ policies, c.policies = .ok policies := by
  constructor
  · rintro ⟨s', h⟩
    exact (enter_eq_ok h).2
  · rintro ⟨policies, hpolicies⟩
    have hkept : (s.assert c isTarget policies).lacksPolicy = false := by
      rw [← Bool.not_eq_true, lacksPolicy_assert]
      omega
    rw [enter_eq hpolicies, hkept]
    exact ⟨_, rfl⟩

theorem exists_leave_iff (s : PolicyState) (c : PolicyStatement) :
    (∃ s', s.leave c = .ok s') ↔ ∃ mappings, c.mappings = .ok mappings := by
  constructor
  · rintro ⟨s', h⟩
    exact (leave_eq_ok h).2
  · rintro ⟨mappings, hmappings⟩
    rw [leave, hmappings]
    exact ⟨_, rfl⟩

/-- A counter beyond the path without any bound on it lasts to the end. -/
theorem run_of_unbounded : ∀ {path : List PolicyStatement} {s : PolicyState} {position : Nat},
    path ≠ [] → path.length < s.explicitPolicy → (∀ c ∈ path, c.requireExplicit = none) →
      ((∃ final, s.run position path = .ok final) ↔ Readable path)
        ∧ ∀ final, s.run position path = .ok final → 1 < final.explicitPolicy
  | [], _, _, hne, _, _ => absurd rfl hne
  | [target], s, position, _, hlong, _ => by
      have hpositive : 1 < s.explicitPolicy := hlong
      constructor
      · rw [run, exists_enter_iff (by omega)]
        simp [Readable]
      · intro final hfinal
        rw [(enter_eq_ok hfinal).1.explicitPolicy]
        exact hpositive
  | c :: next :: rest, s, position, _, hlong, hnone => by
      obtain ⟨hfirst, hrest⟩ := List.forall_mem_cons.mp hnone
      have hstep : ∀ {entered left : PolicyState}, s.enter c position false = .ok entered →
          entered.leave c = .ok left → (next :: rest).length < left.explicitPolicy := by
        intro entered left henter hleave
        rw [(leave_eq_ok hleave).1.explicitPolicy, (enter_eq_ok henter).1.explicitPolicy]
        simp only [counterAfter, hfirst, limit]
        rw [List.length_cons] at hlong
        split <;> omega
      have ih : ∀ {left : PolicyState}, (next :: rest).length < left.explicitPolicy →
          ((∃ final, left.run (position + 1) (next :: rest) = .ok final) ↔ Readable (next :: rest))
            ∧ ∀ final, left.run (position + 1) (next :: rest) = .ok final →
                1 < final.explicitPolicy :=
        fun hleft => run_of_unbounded (List.cons_ne_nil _ _) hleft hrest
      have hrun : ∀ final, s.run position (c :: next :: rest) = .ok final ↔
          ∃ entered, s.enter c position false = .ok entered
            ∧ ∃ left, entered.leave c = .ok left
                ∧ left.run (position + 1) (next :: rest) = .ok final := by
        intro final
        rw [run, bind_eq_ok]
        · simp only [bind_eq_ok]
        · exact fun heq => absurd heq (List.cons_ne_nil _ _)
      constructor
      · rw [readable_cons_cons, ← exists_enter_iff (by omega : 0 < s.explicitPolicy) c position false]
        constructor
        · rintro ⟨final, hfinal⟩
          obtain ⟨entered, henter, left, hleave, hlast⟩ := (hrun final).mp hfinal
          exact ⟨⟨entered, henter⟩, (leave_eq_ok hleave).2,
            (ih (hstep henter hleave)).1.mp ⟨final, hlast⟩⟩
        · rintro ⟨⟨entered, henter⟩, hmappings, hreadable⟩
          obtain ⟨left, hleave⟩ := (exists_leave_iff entered c).mpr hmappings
          obtain ⟨final, hlast⟩ := (ih (hstep henter hleave)).1.mpr hreadable
          exact ⟨final, (hrun final).mpr ⟨entered, henter, left, hleave, hlast⟩⟩
      · intro final hfinal
        obtain ⟨entered, henter, left, hleave, hlast⟩ := (hrun final).mp hfinal
        exact (ih (hstep henter hleave)).2 final hlast

/-! ## The whole processing -/

/-- Where `anyPolicy` is not honoured, it is as if it were not asserted. -/
theorem addLevel_of_inhibited (tree : PolicyTree) (policies : List String) :
    tree.addLevel policies false = tree.addLevel (policies.filter (· ≠ anyPolicy)) true := by
  have hnamed : (policies.filter (· ≠ anyPolicy)).filter (· ≠ anyPolicy)
      = policies.filter (· ≠ anyPolicy) := by
    rw [List.filter_filter]
    simp
  have hnone : (policies.filter (· ≠ anyPolicy)).contains anyPolicy = false := by simp
  simp only [PolicyTree.addLevel, PolicyTree.nextLevel, hnamed, hnone, Bool.false_and,
    Bool.and_false]

/-- Where `anyPolicy` is honoured, the tree goes on under each node for
every policy that the node expects. -/
theorem exists_child_of_honoured {tree : PolicyTree} {policies : List String}
    (hany : anyPolicy ∈ policies) {i : Nat} {node : PolicyNode}
    (hnode : tree.deepest[i]? = some node) {policy : String}
    (hexpected : policy ∈ node.expected.toList) :
    ∃ child ∈ (tree.addLevel policies true).deepest,
      child.parent = some i ∧ child.policy = policy := by
  rw [PolicyTree.deepest_addLevel, PolicyTree.nextLevel, Bool.true_and,
    if_pos (List.contains_iff_mem.mpr hany)]
  cases hnamed : ((policies.filter (· ≠ anyPolicy)).flatMap
      (PolicyTree.nodesFor tree.deepest)).any fun child =>
        child.parent == some i && child.policy == policy with
  | true =>
      obtain ⟨child, hchild, hsame⟩ := List.any_eq_true.mp hnamed
      rw [Bool.and_eq_true, beq_iff_eq, beq_iff_eq] at hsame
      exact ⟨child, List.mem_append_left _ hchild, hsame⟩
  | false =>
      refine ⟨.leaf policy (some i), List.mem_append_right _ ?_, rfl, rfl⟩
      refine List.mem_flatMap.mpr ⟨(node, i), List.mem_zipIdx_iff_getElem?.mpr hnode, ?_⟩
      exact List.mem_map_of_mem (List.mem_filter.mpr ⟨hexpected, by rw [hnamed]; rfl⟩)

/-- A state is acceptable if a tree outlives the intersection where one is
demanded. -/
theorem isAcceptable_iff {s : PolicyState} {acceptable : TextSet}
    {target : Option PolicyStatement} :
    s.isAcceptable acceptable target = true ↔
      (s.explicitPolicy - 1 = 0 ∨ target.any (·.requireExplicit = some 0) = true →
        ∃ tree rest, s.tree = some tree ∧ kept (tree.intersect acceptable) = some rest) := by
  have htree : (s.tree.bind fun tree => kept (tree.intersect acceptable)).isSome = true ↔
      ∃ tree rest, s.tree = some tree ∧ kept (tree.intersect acceptable) = some rest := by
    simp only [Option.isSome_iff_exists, Option.bind_eq_some_iff]
    exact ⟨fun ⟨rest, tree, h⟩ => ⟨tree, rest, h⟩, fun ⟨tree, rest, h⟩ => ⟨rest, tree, h⟩⟩
  rw [isAcceptable, Bool.or_eq_true, htree, Bool.not_eq_true', decide_eq_false_iff_not,
    imp_iff_not_or]

theorem processPolicies_eq (path : List PolicyStatement) (parameters : PolicyParameters) :
    processPolicies path parameters = (start parameters path.length).run 1 path >>= fun final =>
      if final.isAcceptable parameters.initialPolicies path.getLast? then .ok ()
      else .error .noneAcceptable :=
  rfl

/-- Without an explicit policy required from the start or by any
certificate, a path is accepted if it can be read. -/
theorem processPolicies_of_unbounded {path : List PolicyStatement} {parameters : PolicyParameters}
    (hne : path ≠ []) (hexplicit : parameters.explicitPolicyRequired = false)
    (hnone : ∀ c ∈ path, c.requireExplicit = none) :
    processPolicies path parameters = .ok () ↔ Readable path := by
  have hstart : path.length < (start parameters path.length).explicitPolicy := by
    simp [start, hexplicit]
  obtain ⟨hreadable, hlast⟩ := @run_of_unbounded path _ 1 hne hstart hnone
  rw [processPolicies_eq, bind_eq_ok, ← hreadable]
  refine exists_congr fun final => ⟨fun h => h.1, fun hrun => ⟨hrun, ?_⟩⟩
  have htarget : path.getLast?.any (·.requireExplicit = some 0) = false := by
    rw [List.getLast?_eq_some_getLast hne, Option.any_some, hnone _ (List.getLast_mem hne)]
    rfl
  have hcounter := hlast final hrun
  have hacceptable : final.isAcceptable parameters.initialPolicies path.getLast? = true := by
    have hpositive : final.explicitPolicy - 1 ≠ 0 := by omega
    simp [isAcceptable, htarget, hpositive]
  rw [if_pos hacceptable]

def sampleParameters : PolicyParameters := ⟨.empty, false, false, false⟩

/-- The topmost certificate. One that counts may pass below it before an explicit policy is
required, and `anyPolicy` is inhibited after as many. -/
def sampleOuter : PolicyStatement :=
  ⟨false, .ok (some ["1.2", anyPolicy]), .ok [("1.2", .singleton "1.3")], some 1, none, some 1⟩

/-- The next one is self-issued, and inhibits mapping from here on. -/
def sampleRenewed : PolicyStatement :=
  ⟨true, .ok (some [anyPolicy]), .ok [], none, some 0, none⟩

def sampleInner : PolicyStatement :=
  ⟨false, .ok (some ["1.3", anyPolicy]), .ok [("1.3", .singleton "1.4")], none, none, none⟩

def sampleTarget : PolicyStatement :=
  ⟨false, .ok (some [anyPolicy]), .ok [], none, none, none⟩

end PolicyState

end TrustPath
