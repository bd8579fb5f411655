/-
  StakeRelay.Proofs.Dialogue.Chronicle — what the exchanges of a follower brought about.

  From the exchanges alone one can tell what the relay has done: which updates the
  destination accepted, what the checkpoint took, and which blocks were read. A chronicle
  is that account, written exchange by exchange.

  All updates are the same call, so the chronicle tells them apart by where they stand. A
  log query opens the visit of a height, and an update that follows it carries the
  deposits; once the size of the registry was asked for, an update carries the registry.
-/

import StakeRelay.Deposit.Scanner
import StakeRelay.Proofs.Dialogue.Conduct

namespace StakeRelay

/-! ## §1. Deposits of a block -/

/-- The records of the deposits in a block's logs; a failure if one of the logs is broken. -/
def Scanner.depositsOf (height : UInt64) (logs : List RawLog) :
    Except Failure (List StakerRecord) :=
  (Scanner.decodeFrom height 0 logs).map fun events => events.map DepositEvent.toRecord

/-- A block that was read whole. -/
structure Scan where
  height : UInt64
  /-- The records of its deposits, in the order of its logs. -/
  records : List StakerRecord
  deriving Repr, DecidableEq

/-- What the answer to a log query shows of a block. -/
def Scan.ofReply (height : UInt64) : Except Failure (List RawLog) → List Scan
  | .ok logs =>
    match Scanner.depositsOf height logs with
    | .ok records => [⟨height, records⟩]
    | .error _ => []
  | .error _ => []

/-- A block that decodes shows one `Scan`, with the records of its deposits. -/
theorem Scan.ofReply_whole {height : UInt64} {logs : List RawLog} {events : List DepositEvent}
    (whole : Scanner.decodeFrom height 0 logs = .ok events) :
    ofReply height (.ok logs) = [⟨height, events.map DepositEvent.toRecord⟩] := by
  simp only [ofReply, Scanner.depositsOf, whole, Except.map]

/-- A block that does not decode shows none. -/
theorem Scan.ofReply_broken {height : UInt64} {logs : List RawLog} {failure : Failure}
    (broken : Scanner.decodeFrom height 0 logs = .error failure) :
    ofReply height (.ok logs) = [] := by
  simp only [ofReply, Scanner.depositsOf, broken, Except.map]

theorem Scan.length_ofReply_le (height : UInt64) (reply : Except Failure (List RawLog)) :
    (ofReply height reply).length ≤ 1 := by
  unfold ofReply
  split
  · split <;> simp
  · exact Nat.zero_le 1

/-! ## §2. Effects -/

/-- What an update is for. -/
inductive Purpose
  /-- It carries the ranked deposits of an epoch. -/
  | deposits
  /-- It carries the ranked registry and those who left it. -/
  | registry
  deriving Repr, DecidableEq

/-- Something that another party took from the relay. -/
inductive Effect
  /-- The destination accepted an update at a height. -/
  | accepted (purpose : Purpose) (height : UInt64) (payload : List StakerRecord)
  /-- The checkpoint took a snapshot. -/
  | keptSnapshot (snapshot : List StakerRecord)
  /-- The checkpoint took a cursor. -/
  | keptCursor (cursor : UInt64)
  deriving Repr, DecidableEq

/-- The account of a follower's exchanges. -/
structure Chronicle where
  /-- The height that is visited, zero before the first. -/
  height : UInt64
  /-- What an update would be for now. -/
  purpose : Purpose
  /-- The effects since the last log query, the oldest first. -/
  visit : List Effect
  /-- All effects, the oldest first. -/
  effects : List Effect
  /-- The blocks that were read whole, the oldest first. -/
  scans : List Scan
  deriving Repr, DecidableEq

/-- Whether a block is asked for, with which the visit of a height begins. -/
def Request.opensVisit : Request → Bool
  | .source (.logs _) => true
  | _ => false

/-- Whether the registry's size is asked for, with which the registry's half begins. -/
def Request.asksSize : Request → Bool
  | .source .registrySize => true
  | _ => false

/-- The cursor that is to be written. -/
def Request.newCursor? : Request → Option UInt64
  | .checkpoint (.writeCursor cursor) => some cursor
  | _ => none

/-- A request that `opensVisit` is a log query. -/
theorem Request.exists_logs {r : Request} (opens : r.opensVisit = true) :
    ∃ f, r = .source (.logs f) := by
  cases r with
  | source q =>
    cases q with
    | logs f => exact ⟨f, rfl⟩
    | _ => cases opens
  | _ => cases opens

namespace Chronicle

/-- The account of no exchanges. -/
def blank : Chronicle := ⟨0, .deposits, [], [], []⟩

/-- The account with one more effect. -/
def note (c : Chronicle) (effect : Effect) : Chronicle :=
  { c with visit := c.visit ++ [effect], effects := c.effects ++ [effect] }

/-- The effect of an exchange, if it has one. -/
def effectOf (c : Chronicle) : Exchange → Option Effect
  | ⟨.submit update, .ok ()⟩ => some (.accepted c.purpose c.height update.payload)
  | ⟨.checkpoint (.writeSnapshot snapshot), .ok ()⟩ => some (.keptSnapshot snapshot)
  | ⟨.checkpoint (.writeCursor cursor), .ok ()⟩ => some (.keptCursor cursor)
  | _ => none

/-- The account after an exchange. -/
def after (c : Chronicle) (x : Exchange) : Chronicle :=
  match x with
  | ⟨.source (.logs filter), reply⟩ =>
    { c with
      height := filter.last
      purpose := .deposits
      visit := []
      scans := c.scans ++ Scan.ofReply filter.last reply }
  | ⟨.source .registrySize, _⟩ => { c with purpose := .registry }
  | x =>
    match c.effectOf x with
    | some effect => c.note effect
    | none => c

/-- The account of exchanges. -/
def of (t : List Exchange) : Chronicle := t.foldl after blank

/-- The account of `t ++ [x]` is that of `t` and then `x`. -/
theorem of_concat (t : List Exchange) (x : Exchange) : of (t ++ [x]) = (of t).after x := by
  rw [of, List.foldl_append]
  rfl

/-- An exchange adds its effect, if it has one (`effectOf`). -/
theorem effects_after (c : Chronicle) (x : Exchange) :
    (c.after x).effects = c.effects ++ (c.effectOf x).toList := by
  obtain ⟨request, reply⟩ := x
  cases request with
  | source q => cases q <;> simp [after, effectOf]
  | submit update => cases reply <;> simp [after, effectOf, note]
  | checkpoint q => cases q <;> cases reply <;> simp [after, effectOf, note]
  | stopRequested => simp [after, effectOf]
  | wait ms => simp [after, effectOf]

/-- Every exchange but a log query goes on with the visit: `height` stays, and `visit` grows by
    its effect. -/
theorem visit_after (c : Chronicle) {x : Exchange} (goesOn : x.request.opensVisit = false) :
    (c.after x).height = c.height ∧ (c.after x).visit = c.visit ++ (c.effectOf x).toList := by
  obtain ⟨request, reply⟩ := x
  cases request with
  | source q =>
    cases q with
    | logs f => cases goesOn
    | _ => simp [after, effectOf]
  | submit update => cases reply <;> simp [after, effectOf, note]
  | checkpoint q => cases q <;> cases reply <;> simp [after, effectOf, note]
  | stopRequested => simp [after, effectOf]
  | wait ms => simp [after, effectOf]

/-- Only a log query adds to `scans`. -/
theorem scans_after (c : Chronicle) {x : Exchange} (goesOn : x.request.opensVisit = false) :
    (c.after x).scans = c.scans := by
  obtain ⟨request, reply⟩ := x
  cases request with
  | source q =>
    cases q with
    | logs f => cases goesOn
    | _ => rfl
  | submit update => cases reply <;> rfl
  | checkpoint q => cases q <;> cases reply <;> rfl
  | stopRequested => rfl
  | wait ms => rfl

/-- Only a log query and the question for the size of the registry change the `purpose` of an
    update. -/
theorem purpose_after (c : Chronicle) {x : Exchange} (goesOn : x.request.opensVisit = false)
    (size : x.request.asksSize = false) : (c.after x).purpose = c.purpose := by
  obtain ⟨request, reply⟩ := x
  cases request with
  | source q =>
    cases q with
    | logs f => cases goesOn
    | registrySize => cases size
    | _ => rfl
  | submit update => cases reply <;> rfl
  | checkpoint q => cases q <;> cases reply <;> rfl
  | stopRequested => rfl
  | wait ms => rfl

theorem suffix_after {c : Chronicle} (h : c.visit <:+ c.effects) (x : Exchange) :
    (c.after x).visit <:+ (c.after x).effects := by
  cases opens : x.request.opensVisit with
  | true =>
    obtain ⟨f, opened⟩ := Request.exists_logs opens
    obtain ⟨request, reply⟩ := x
    subst opened
    exact List.nil_suffix
  | false =>
    -- both lists grow by the same effect
    have stays := (visit_after c opens).2
    obtain ⟨early, whole⟩ := h
    rw [stays, effects_after, ← whole, List.append_assoc]
    exact List.suffix_append _ _

/-- The effects of the `visit` are the last ones of all `effects`. -/
theorem visit_suffix (t : List Exchange) : (of t).visit <:+ (of t).effects := by
  -- the induction goes over every account that may stand before the exchanges
  suffices h : ∀ c : Chronicle, c.visit <:+ c.effects →
      (t.foldl after c).visit <:+ (t.foldl after c).effects from h blank (List.suffix_refl _)
  intro c h
  induction t generalizing c with
  | nil => exact h
  | cons x t ih => exact ih _ (suffix_after h x)

theorem length_scans_after (c : Chronicle) (x : Exchange) :
    (c.after x).scans.length ≤ c.scans.length + 1 := by
  cases opens : x.request.opensVisit with
  | true =>
    obtain ⟨f, opened⟩ := Request.exists_logs opens
    obtain ⟨request, reply⟩ := x
    subst opened
    show (c.scans ++ Scan.ofReply f.last reply).length ≤ _
    rw [List.length_append]
    exact Nat.add_le_add_left (Scan.length_ofReply_le _ _) _
  | false =>
    rw [scans_after c opens]
    exact Nat.le_succ _

/-- No exchange shows more than one block, so `scans` is no longer than `t`. -/
theorem length_scans_le (t : List Exchange) : (of t).scans.length ≤ t.length := by
  suffices h : ∀ c : Chronicle, (t.foldl after c).scans.length ≤ c.scans.length + t.length by
    have := h blank
    rwa [show blank.scans.length = 0 from rfl, Nat.zero_add] at this
  intro c
  induction t generalizing c with
  | nil => exact Nat.le_refl _
  | cons x t ih =>
    have := ih (c.after x)
    have := length_scans_after c x
    rw [List.foldl_cons, List.length_cons]
    omega

/-! ## §3. Requests without a trace -/

/-- A request that leaves the account as it is, whatever is answered. -/
structure Silent (r : Request) : Prop where
  quiet : ∀ c reply, effectOf c ⟨r, reply⟩ = none
  goesOn : r.opensVisit = false
  noSize : r.asksSize = false

theorem Silent.purpose_after {r : Request} (silent : Silent r) (c : Chronicle) (reply : r.Reply) :
    (c.after ⟨r, reply⟩).purpose = c.purpose :=
  Chronicle.purpose_after c silent.goesOn silent.noSize

/-- A `Silent` request writes no cursor. -/
theorem Silent.noCursor {r : Request} (silent : Silent r) : r.newCursor? = none := by
  cases r with
  | checkpoint q =>
    cases q with
    | writeCursor cursor => cases silent.quiet blank (.ok ())
    | _ => rfl
  | _ => rfl

theorem silent_readSnapshot : Silent (.checkpoint .readSnapshot) :=
  ⟨fun _ _ => rfl, rfl, rfl⟩

/-- Requests for an entry of the registry. -/
inductive AsksEntry : Request → Prop
  | stakerAt (index : UInt64) : AsksEntry (.source (.stakerAt index))
  | stakerInfo (staker : Address) : AsksEntry (.source (.stakerInfo staker))

/-- A question for an entry of the registry is `Silent`. -/
theorem AsksEntry.silent {r : Request} (asks : AsksEntry r) : Silent r := by
  cases asks with
  | stakerAt index => exact ⟨fun _ _ => rfl, rfl, rfl⟩
  | stakerInfo staker => exact ⟨fun _ _ => rfl, rfl, rfl⟩

/-! ## §4. The account beside a partner -/

/-- The account is written while the admitted answers are given. -/
def follows (admits : Chronicle → Exchange → Prop) : Surroundings Chronicle :=
  fun c x c' => admits c x ∧ c' = c.after x

theorem through_follows_from {admits : Chronicle → Exchange → Prop} {t : List Exchange}
    (pre : List Exchange)
    (admitted : ∀ mid x post, t = mid ++ x :: post → admits (of (pre ++ mid)) x) :
    (follows admits).Through (of pre) t (of (pre ++ t)) := by
  induction t generalizing pre with
  | nil =>
    rw [List.append_nil]
    exact .here _
  | cons x t ih =>
    -- the first exchange joins those before, and the rest goes on from there
    have later := ih (pre ++ [x]) fun mid y post whole => by
      simpa using admitted (x :: mid) y post (by rw [whole]; rfl)
    rw [of_concat, List.append_assoc] at later
    refine .step ⟨?_, rfl⟩ later
    simpa using admitted [] x t rfl

/-- Exchanges go `through` their own account if each one is admitted behind the account of those
    before it. -/
theorem through_follows {admits : Chronicle → Exchange → Prop} {t : List Exchange}
    (admitted : ∀ pre x post, t = pre ++ x :: post → admits (of pre) x) :
    (follows admits).Through blank t (of t) := through_follows_from [] admitted

end Chronicle

/-! ## §5. Accepted updates -/

/-- The effects of exchanges, the oldest first. -/
def effects (t : List Exchange) : List Effect := (Chronicle.of t).effects

/-- The height and the payload of the accepted updates of one kind, the oldest first. -/
def acceptedFor (purpose : Purpose) (effects : List Effect) :
    List (UInt64 × List StakerRecord) :=
  effects.filterMap fun
    | .accepted p height payload => if p = purpose then some (height, payload) else none
    | _ => none

/-- `acceptedFor` adds up over effects. -/
theorem acceptedFor_append (purpose : Purpose) (es fs : List Effect) :
    acceptedFor purpose (es ++ fs) = acceptedFor purpose es ++ acceptedFor purpose fs :=
  List.filterMap_append

/-- A height and a payload are in `acceptedFor purpose` just if `.accepted` says so. -/
theorem mem_acceptedFor {purpose : Purpose} {es : List Effect} {height : UInt64}
    {payload : List StakerRecord} :
    (height, payload) ∈ acceptedFor purpose es ↔ .accepted purpose height payload ∈ es := by
  rw [acceptedFor, List.mem_filterMap]
  constructor
  · intro given
    obtain ⟨effect, member, taken⟩ := given
    cases effect with
    | accepted p h records =>
      by_cases same : p = purpose
      · obtain ⟨rfl, rfl⟩ : h = height ∧ records = payload := by simpa [same] using taken
        exact same ▸ member
      · simp [same] at taken
    | keptSnapshot snapshot => cases taken
    | keptCursor cursor => cases taken
  · intro member
    exact ⟨_, member, by simp⟩

end StakeRelay
