/-
  StakeRelay.Proofs.Dialogue.Conduct — what a dialogue guarantees wherever it is cut off.

  A dialogue is answered by its surroundings, whose state may change with every exchange
  and which may answer in more than one way. `Conducts env G Q d g` says that, from the
  state `g` on,
    * every exchange of `d` is a step that `G` allows, and
    * if `d` comes to an end, its result and the last state satisfy `Q`.
  The first part speaks of every exchange, not only of the last: it is what remains true
  when the relay crashes between two calls and loses all that it had in memory.

  Main statements:
    * `Conducts.path` — the guarantee holds along every path of a dialogue;
    * `conducts_bind` — it composes, so each function is treated once;
    * `Lived.conduct` — it holds through any number of dialogues, each cut off anywhere;
    * `Conducts.recorded` — a dialogue that comes to its end has gone through its exchanges.
-/

import StakeRelay.Dialogue

namespace StakeRelay

/-! ## §1. Surroundings -/

/-- The steps that the partners can take: the state before an exchange, the exchange, and
    the state after it. -/
abbrev Surroundings (γ : Type) := γ → Exchange → γ → Prop

/-- The surroundings can go through the exchanges from the first state to the last. -/
inductive Surroundings.Through {γ : Type} (env : Surroundings γ) :
    γ → List Exchange → γ → Prop
  | here (g : γ) : Through env g [] g
  | step {g g' g'' : γ} {x : Exchange} {t : List Exchange} (first : env g x g')
      (rest : Through env g' t g'') : Through env g (x :: t) g''

namespace Surroundings

variable {γ : Type} {env : Surroundings γ}

theorem Through.append {g g' g'' : γ} {t u : List Exchange} (first : env.Through g t g')
    (second : env.Through g' u g'') : env.Through g (t ++ u) g'' := by
  induction first with
  | here g => exact second
  | step h _ ih => exact .step h (ih second)

theorem Through.split {g g'' : γ} {t u : List Exchange} (whole : env.Through g (t ++ u) g'') :
    ∃ g', env.Through g t g' ∧ env.Through g' u g'' := by
  induction t generalizing g with
  | nil => exact ⟨g, .here g, whole⟩
  | cons x t ih =>
    cases whole with
    | step h rest =>
      obtain ⟨g', first, second⟩ := ih rest
      exact ⟨g', .step h first, second⟩

/-- Two states side by side, each going its own way through the same exchanges. -/
def beside {σ : Type} (env : Surroundings γ) (env' : Surroundings σ) : Surroundings (γ × σ) :=
  fun g x g' => env g.1 x g'.1 ∧ env' g.2 x g'.2

theorem Through.beside {σ : Type} {env' : Surroundings σ} {g g' : γ} {s s' : σ}
    {t : List Exchange} (first : env.Through g t g') (second : env'.Through s t s') :
    (env.beside env').Through (g, s) t (g', s') := by
  induction first generalizing s with
  | here g =>
    cases second
    exact .here _
  | step h _ ih =>
    cases second with
    | step h' rest' =>
      have both : env.beside env' (_, _) _ (_, _) := ⟨h, h'⟩
      exact .step both (ih rest')

/-- What every step of `env` keeps holds at the end. -/
theorem Through.keeps {I : γ → Prop} {g g' : γ} {t : List Exchange} (steps : env.Through g t g')
    (kept : ∀ g x g', I g → env g x g' → I g') (start : I g) : I g' := by
  induction steps with
  | here g => exact start
  | step first _ ih => exact ih (kept _ _ _ start first)

theorem Through.mono {env' : Surroundings γ} {g g' : γ} {t : List Exchange}
    (steps : env.Through g t g') (wider : ∀ g x g', env g x g' → env' g x g') :
    env'.Through g t g' := by
  induction steps with
  | here g => exact .here g
  | step first _ ih => exact .step (wider _ _ _ first) ih

/-- Where every step keeps `P`, the states that satisfy it go through the same exchanges. -/
theorem Through.within {P : γ → Prop} {env' : Surroundings {g // P g}} {g g' : γ}
    {t : List Exchange} (steps : env.Through g t g') (kept : ∀ g x g', P g → env g x g' → P g')
    (same : ∀ g x g', env g.1 x g'.1 → env' g x g') (start : P g) :
    ∃ last : P g', env'.Through ⟨g, start⟩ t ⟨g', last⟩ := by
  induction steps with
  | here g => exact ⟨start, .here _⟩
  | step first _ ih =>
    obtain ⟨last, rest⟩ := ih (kept _ _ _ start first)
    exact ⟨last, .step (same ⟨_, start⟩ _ ⟨_, _⟩ first) rest⟩

/-- What every step of `env` shows of its exchange holds of every exchange. -/
theorem Through.each {P : Exchange → Prop} {g g' : γ} {t : List Exchange}
    (steps : env.Through g t g') (shows : ∀ g x g', env g x g' → P x) : ∀ x ∈ t, P x := by
  induction steps with
  | here g => exact fun _ => nofun
  | step first _ ih =>
    intro x member
    rcases List.mem_cons.mp member with rfl | later
    · exact shows _ _ _ first
    · exact ih x later

/-- A state whose `answer` is as the surroundings may give it goes through the exchanges of a
    dialogue. -/
theorem through_run {α : Type} {I : γ → Prop} {answer : Answering γ}
    (answers : ∀ r g, I g → env g ⟨r, (answer r g).1⟩ (answer r g).2 ∧ I (answer r g).2)
    (d : Dialogue α) {g : γ} (start : I g) :
    env.Through g (d.exchanges answer g) (d.run answer g).2 := by
  induction d generalizing g with
  | done a => exact .here g
  | ask r next ih =>
    obtain ⟨step, kept⟩ := answers r g start
    exact .step step (ih _ kept)

end Surroundings

/-! ## §2. Guarantees -/

namespace Dialogue

/-- Every exchange is a step that `G` allows, and the result and the last state satisfy `Q`. -/
def Conducts {α γ : Type} (env G : Surroundings γ) (Q : α → γ → Prop) : Dialogue α → γ → Prop
  | .done a, g => Q a g
  | .ask r next, g =>
    ∀ reply g', env g ⟨r, reply⟩ g' → G g ⟨r, reply⟩ g' ∧ (next reply).Conducts env G Q g'

variable {α β γ : Type} {env G : Surroundings γ}

@[simp] theorem conducts_done (Q : α → γ → Prop) (a : α) (g : γ) :
    (Dialogue.done a).Conducts env G Q g ↔ Q a g := Iff.rfl

theorem conducts_ask (Q : α → γ → Prop) (r : Request) (next : r.Reply → Dialogue α) (g : γ) :
    (Dialogue.ask r next).Conducts env G Q g ↔
      ∀ reply g', env g ⟨r, reply⟩ g' →
        G g ⟨r, reply⟩ g' ∧ (next reply).Conducts env G Q g' := Iff.rfl

theorem conducts_bind (Q : β → γ → Prop) (d : Dialogue α) (f : α → Dialogue β) (g : γ) :
    (d.bind f).Conducts env G Q g ↔
      d.Conducts env G (fun a g => (f a).Conducts env G Q g) g := by
  induction d generalizing g with
  | done a => rfl
  | ask r next ih => simp only [bind_ask, conducts_ask, ih]

/-- A guarantee may be weakened at the end, from `Q` to `Q'`. -/
theorem Conducts.mono {Q Q' : α → γ → Prop} {d : Dialogue α} {g : γ}
    (h : d.Conducts env G Q g) (imp : ∀ a g, Q a g → Q' a g) : d.Conducts env G Q' g := by
  induction d generalizing g with
  | done a => exact imp a g h
  | ask r next ih =>
    intro reply g' step
    obtain ⟨allowed, rest⟩ := h reply g' step
    exact ⟨allowed, ih reply rest⟩

/-- What a dialogue comes to in wider surroundings `env'` it also comes to in these. -/
theorem Conducts.and {env' G' : Surroundings γ} {Q Q' : α → γ → Prop} {d : Dialogue α} {g : γ}
    (h : d.Conducts env G Q g) (h' : d.Conducts env' G' Q' g)
    (wider : ∀ g x g', env g x g' → env' g x g') :
    d.Conducts env G (fun a g => Q a g ∧ Q' a g) g := by
  induction d generalizing g with
  | done a => exact ⟨h, h'⟩
  | ask r next ih =>
    intro reply g' step
    obtain ⟨allowed, rest⟩ := h reply g' step
    exact ⟨allowed, ih reply rest (h' reply g' (wider _ _ _ step)).2⟩

/-- Along a path every exchange is allowed (`G`), and what is left keeps the guarantee. -/
theorem Conducts.path {Q : α → γ → Prop} {d d' : Dialogue α} {g g' : γ} {t : List Exchange}
    (h : d.Conducts env G Q g) (path : Path d t d') (through : env.Through g t g') :
    G.Through g t g' ∧ d'.Conducts env G Q g' := by
  -- the path and the steps of the surroundings are taken side by side
  induction path generalizing g with
  | here d =>
    cases through
    exact ⟨.here _, h⟩
  | step reply _ ih =>
    cases through with
    | step first rest =>
      obtain ⟨allowed, after⟩ := h _ _ first
      obtain ⟨steps, last⟩ := ih after rest
      exact ⟨.step allowed steps, last⟩

/-- A path of the first half is one of the whole, `d.bind f`. -/
theorem Path.bind {d e : Dialogue α} {t : List Exchange} (path : Path d t e)
    (f : α → Dialogue β) : Path (d.bind f) t (e.bind f) := by
  induction path with
  | here d => exact .here _
  | step reply _ ih => exact .step reply ih

/-- A dialogue that comes to its end satisfies its last assertion `Q`. -/
theorem Conducts.result {Q : α → γ → Prop} {d : Dialogue α} {a : α} {g g' : γ}
    {t : List Exchange} (h : d.Conducts env G Q g) (path : Path d t (.done a))
    (through : env.Through g t g') : Q a g' :=
  (h.path path through).2

/-- Each single exchange of a path is allowed (`G`) where it takes place. -/
theorem Conducts.allowed {Q : α → γ → Prop} {d d' : Dialogue α} {g g' g'' : γ}
    {pre post : List Exchange} {x : Exchange} (h : d.Conducts env G Q g)
    (path : Path d (pre ++ x :: post) d') (before : env.Through g pre g')
    (step : env g' x g'') : G g' x g'' := by
  obtain ⟨e, first, second⟩ := path.split
  have later := (h.path first before).2
  cases second with
  | step reply _ => exact (later reply g'' step).1

/-! ## §3. Attempts -/

/-- An attempt goes on with its result, `.ok a`, and ends with its failure. -/
theorem attempt_bind (x : Attempt α) (f : α → Attempt β) :
    (x >>= f).run = x.run.bind fun
      | .ok a => (f a).run
      | .error failure => .done (.error failure) := by
  show Dialogue.bind x.run (ExceptT.bindCont f) = _
  congr 1
  funext outcome
  cases outcome <;> rfl

theorem attempt_lift (d : Dialogue α) :
    (ExceptT.lift d : Attempt α).run = d.bind fun a => .done (.ok a) := rfl

/-- What an attempt `x >>= f` guarantees, from what its first half does. -/
theorem conducts_attempt_bind (Q : Except Failure β → γ → Prop) (x : Attempt α)
    (f : α → Attempt β) (g : γ) :
    (x >>= f).run.Conducts env G Q g ↔
      x.run.Conducts env G (fun outcome g =>
        match outcome with
        | .ok a => (f a).run.Conducts env G Q g
        | .error failure => Q (.error failure) g) g := by
  rw [attempt_bind, conducts_bind]
  constructor
  all_goals
    intro h
    refine h.mono fun outcome g held => ?_
    cases outcome <;> exact held

end Dialogue

/-! ## §4. Several lives -/

/-- `Lived ds t`: the dialogues took place one after another, each cut off somewhere, and
    the exchanges of all of them are `t`. -/
inductive Lived {α : Type} : List (Dialogue α) → List Exchange → Prop
  | none : Lived [] []
  | life {d d' : Dialogue α} {ds : List (Dialogue α)} {t u : List Exchange}
      (first : Dialogue.Path d t d') (rest : Lived ds u) : Lived (d :: ds) (t ++ u)

/-- What stands in two parts together stands in the second or in the first. -/
theorem cons_split {α : Type} {pre post t u : List α} {x : α}
    (whole : pre ++ x :: post = t ++ u) :
    (∃ a, pre = t ++ a ∧ u = a ++ x :: post) ∨ ∃ a, t = pre ++ x :: a ∧ post = a ++ u := by
  rcases List.append_eq_append_iff.mp whole with ⟨a, rfl, split⟩ | ⟨a, rfl, split⟩
  · cases a with
    | nil => exact .inl ⟨[], by simp, split.symm⟩
    | cons y a =>
      obtain ⟨rfl, rfl⟩ := List.cons.inj split
      exact .inr ⟨a, rfl, rfl⟩
  · exact .inl ⟨a, rfl, split⟩

namespace Lived

variable {α γ : Type} {env G : Surroundings γ}

/-- What every dialogue guarantees from any state that satisfies `I` holds of all of them
    together, if every allowed step leads to such a state again. -/
theorem conduct {I : γ → Prop} {ds : List (Dialogue α)} {t : List Exchange} {g g' : γ}
    (lived : Lived ds t) (through : env.Through g t g') (start : I g)
    (each : ∀ d ∈ ds, ∀ g, I g → d.Conducts env G (fun _ _ => True) g)
    (kept : ∀ g x g', I g → G g x g' → I g') : I g' := by
  induction lived generalizing g with
  | none =>
    cases through
    exact start
  | @life d d' ds t u first rest ih =>
    -- a life that is cut off has taken allowed steps only, and these keep `I`
    obtain ⟨middle, before, after⟩ := through.split
    have steps := ((each d List.mem_cons_self g start).path first before).1
    exact ih after (steps.keeps kept start) fun d member => each d (List.mem_cons_of_mem _ member)

/-- Each single exchange is allowed (`G`) where it takes place, in whichever life that is. -/
theorem allowed {I : γ → Prop} {ds : List (Dialogue α)} {pre post : List Exchange}
    {x : Exchange} {g g' g'' : γ} (lived : Lived ds (pre ++ x :: post))
    (before : env.Through g pre g') (next : env g' x g'') (start : I g)
    (each : ∀ d ∈ ds, ∀ g, I g → d.Conducts env G (fun _ _ => True) g)
    (kept : ∀ g x g', I g → G g x g' → I g') : G g' x g'' := by
  generalize whole : pre ++ x :: post = t at lived
  induction lived generalizing g pre with
  | none => simp at whole
  | @life d d' ds t u first rest ih =>
    have here := each d List.mem_cons_self g start
    rcases cons_split whole with ⟨a, rfl, rfl⟩ | ⟨a, rfl, rfl⟩
    · obtain ⟨middle, early, late⟩ := before.split
      have steps := (here.path first early).1
      exact ih late (steps.keeps kept start)
        (fun d member => each d (List.mem_cons_of_mem _ member)) rfl
    · exact here.allowed first before next

/-- The exchanges up to any point are those of lives `ds'` that were cut off there. -/
theorem front {ds : List (Dialogue α)} {pre post : List Exchange}
    (lived : Lived ds (pre ++ post)) : ∃ ds', ds' <+: ds ∧ Lived ds' pre := by
  generalize whole : pre ++ post = t at lived
  induction lived generalizing pre with
  | none =>
    obtain ⟨rfl, -⟩ := List.append_eq_nil_iff.mp whole
    exact ⟨[], List.nil_prefix, .none⟩
  | @life d d' ds t u first rest ih =>
    -- the cut lies behind the first life, or within it
    rcases List.append_eq_append_iff.mp whole.symm with ⟨a, rfl, split⟩ | ⟨a, rfl, -⟩
    · obtain ⟨ds', front, lived'⟩ := ih split.symm
      exact ⟨d :: ds', List.cons_prefix_cons.mpr ⟨rfl, front⟩, .life first lived'⟩
    · obtain ⟨middle, before, -⟩ := first.split
      refine ⟨[d], List.cons_prefix_cons.mpr ⟨rfl, List.nil_prefix⟩, ?_⟩
      simpa using Lived.life before Lived.none

/-- A life was cut off between the two parts. -/
def Cut (ds : List (Dialogue α)) (t u : List Exchange) : Prop :=
  ∃ early late, ds = early ++ late ∧ Lived early t ∧ Lived late u

/-- Behind an exchange its life is cut off (`Cut`), or the next one stands in the same life. -/
theorem next {ds : List (Dialogue α)} {pre post : List Exchange} {x : Exchange}
    (lived : Lived ds (pre ++ x :: post)) :
    Cut ds (pre ++ [x]) post ∨
      ∃ y rest, post = y :: rest ∧ ∃ d ∈ ds, ∃ t front back d', pre = t ++ front ∧
        Dialogue.Path d (front ++ x :: y :: back) d' := by
  generalize whole : pre ++ x :: post = t at lived
  induction lived generalizing pre with
  | none => simp at whole
  | @life d d' ds t u first others ih =>
    rcases cons_split whole with ⟨a, rfl, rfl⟩ | ⟨a, rfl, rfl⟩
    · -- the exchange stands in one of the later lives
      rcases ih rfl with ⟨early, late, rfl, before, behind⟩ |
        ⟨y, rest, rfl, e, member, v, front, back, e', rfl, path⟩
      · refine .inl ⟨d :: early, late, rfl, ?_, behind⟩
        rw [List.append_assoc]
        exact .life first before
      · exact .inr ⟨y, rest, rfl, e, List.mem_cons_of_mem _ member, t ++ v, front, back, e',
          (List.append_assoc _ _ _).symm, path⟩
    · -- or in the first, as its last one or not
      cases a with
      | nil =>
        refine .inl ⟨[d], ds, rfl, ?_, others⟩
        simpa using Lived.life first Lived.none
      | cons y a =>
        exact .inr ⟨y, a ++ u, rfl, d, List.mem_cons_self, [], pre, a, d', rfl, first⟩

end Lived

/-! ## §5. The record of all exchanges -/

/-- The state is the record of the exchanges so far, whatever is answered. -/
def recording : Surroundings (List Exchange) := fun t x t' => t' = t ++ [x]

theorem eq_of_recording {t t' : List Exchange} {x : Exchange} (step : recording t x t') :
    t' = t ++ [x] := step

theorem through_recording (t u : List Exchange) : recording.Through t u (t ++ u) := by
  induction u generalizing t with
  | nil =>
    rw [List.append_nil]
    exact .here t
  | cons x u ih =>
    have later := ih (t ++ [x])
    rw [List.append_assoc] at later
    exact .step rfl later

/-- A dialogue that comes to its end has gone through the exchanges that the surroundings
    `recording` have added since it began. -/
theorem Dialogue.Conducts.recorded {α : Type} {G : Surroundings (List Exchange)}
    {Q : α → List Exchange → Prop} {d : Dialogue α} {t : List Exchange}
    (h : d.Conducts recording G Q t) :
    d.Conducts recording G (fun a t' => Q a t' ∧ ∃ u, t' = t ++ u ∧ Path d u (.done a)) t := by
  induction d generalizing t with
  | done a => exact ⟨h, [], (List.append_nil t).symm, .here _⟩
  | ask r next ih =>
    intro reply t' step
    obtain ⟨allowed, rest⟩ := h reply t' step
    refine ⟨allowed, (ih reply rest).mono ?_⟩
    intro a t'' given
    obtain ⟨held, u, whole, path⟩ := given
    refine ⟨held, ⟨r, reply⟩ :: u, ?_, .step reply path⟩
    rw [whole, eq_of_recording step, List.append_assoc]
    rfl

end StakeRelay
