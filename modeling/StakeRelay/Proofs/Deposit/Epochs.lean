/-
  StakeRelay.Proofs.Deposit.Epochs — the deposits of a chain, epoch by epoch.

  A `Ground` is what a follower walks over: what each block holds, the first height that
  counts and the length of the epochs. The epoch that ends at a boundary reaches back to
  the height behind the boundary before it, but not below the first height.

  Main statements:
    * `depositsFrom_succ` — the deposits of a stretch of blocks, block by block;
    * `epochStart_eq` — an epoch is what lies behind the last boundary.
-/

import StakeRelay.Proofs.Dialogue.Chronicle
import StakeRelay.Schedule

namespace StakeRelay

/-- What a follower walks over. -/
structure Ground where
  /-- The deposits of the block at a height, or why they cannot be read. -/
  block : UInt64 → Except Failure (List StakerRecord)
  /-- The first height that counts. -/
  first : Nat
  /-- How many blocks an epoch has. -/
  length : Nat
  length_pos : 0 < length

namespace Ground

/-- The ground of a chain that answers each log query in one way. -/
def ofLogs (found : LogFilter → List RawLog) (scanner : Scanner) (first : UInt64)
    (length : UInt64) (length_pos : 0 < length) : Ground where
  block height :=
    Scanner.depositsOf height (found (.ofBlock scanner.contract scanner.topic height))
  first := first.toNat
  length := length.toNat
  length_pos := length_pos

/-! ## §1. Stretches of blocks -/

/-- The deposits of the `n` blocks from `first` on, by height and within a block by the
    order of its logs. -/
def depositsFrom (g : Ground) (first : Nat) : Nat → Except Failure (List StakerRecord)
  | 0 => .ok []
  | n + 1 => do
    let before ← g.depositsFrom first n
    let found ← g.block (UInt64.ofNat (first + n))
    return before ++ found

theorem depositsFrom_succ {g : Ground} {first n : Nat} {height : UInt64}
    {before found : List StakerRecord} (at_end : height.toNat = first + n)
    (h : g.depositsFrom first n = .ok before) (block : g.block height = .ok found) :
    g.depositsFrom first (n + 1) = .ok (before ++ found) := by
  have place : UInt64.ofNat (first + n) = height := by
    rw [← at_end, UInt64.ofNat_toNat]
  rw [depositsFrom, h, place]
  show (g.block height >>= fun found => pure (before ++ found) : Except Failure _) = _
  rw [block]
  rfl

/-! ## §2. Epochs -/

/-- Where the epoch that ends at a boundary starts. -/
def epochStart (g : Ground) (boundary : Nat) : Nat := max g.first (boundary + 1 - g.length)

/-- The deposits of the epoch that ends at a boundary. -/
def epochDeposits (g : Ground) (boundary : Nat) : Except Failure (List StakerRecord) :=
  g.depositsFrom (g.epochStart boundary) (boundary + 1 - g.epochStart boundary)

/-- The heights at which a follower can take up its walk: the first one, and each that
    lies behind a boundary. -/
def Resting (g : Ground) (height : Nat) : Prop :=
  height = g.first ∨ ∃ b, g.length ∣ b ∧ g.first ≤ b ∧ height = b + 1

theorem Resting.first_le {g : Ground} {height : Nat} (h : g.Resting height) :
    g.first ≤ height := by
  rcases h with rfl | ⟨b, -, le, rfl⟩
  · exact Nat.le_refl _
  · omega

/-- The epoch that ends at a boundary starts where the follower could take up its walk last
    (`Resting`). -/
theorem epochStart_eq {g : Ground} {rest boundary : Nat} (resting : g.Resting rest)
    (le : rest ≤ boundary) (ends : g.length ∣ boundary)
    (between : ∀ b, rest ≤ b → b < boundary → ¬ g.length ∣ b) : g.epochStart boundary = rest := by
  have pos := g.length_pos
  unfold epochStart
  obtain ⟨q, rfl⟩ := ends
  rcases resting with rfl | ⟨b, ⟨p, rfl⟩, first, rfl⟩
  · -- the boundary before this one lies below the first height
    cases q with
    | zero => omega
    | succ q =>
      have below : g.length * q < g.first := by
        refine Nat.lt_of_not_le fun above => between (g.length * q) above ?_ ⟨q, rfl⟩
        rw [Nat.mul_succ]
        omega
      rw [Nat.mul_succ]
      omega
  · -- the boundaries `length * p` and `length * q` follow one another
    have less : p < q := Nat.lt_of_mul_lt_mul_left (a := g.length) (by omega)
    have next : ¬ p + 1 < q := by
      intro far
      have early : g.length * (p + 1) < g.length * q := Nat.mul_lt_mul_of_pos_left far pos
      refine between (g.length * (p + 1)) ?_ early ⟨p + 1, rfl⟩
      rw [Nat.mul_succ]
      omega
    obtain rfl : q = p + 1 := by omega
    rw [Nat.mul_succ]
    omega

/-! ## §3. Boundaries of a schedule -/

theorem isBoundary_iff (s : Schedule) (height : UInt64) :
    s.isBoundary height = true ↔ s.epochLength.toNat ∣ height.toNat := by
  rw [Schedule.isBoundary, decide_eq_true_iff, ← UInt64.toNat_inj, UInt64.toNat_mod,
    Nat.dvd_iff_mod_eq_zero]
  rfl

end Ground

end StakeRelay
