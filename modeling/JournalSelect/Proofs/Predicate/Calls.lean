import JournalSelect.Proofs.Predicate
import Mathlib.Data.List.Forall2

namespace JournalSelect.Predicate

-- How a way goes on from an operator.
inductive Turn where
  | left
  | right
  | inner
deriving DecidableEq, Repr

abbrev Way := List Turn

-- The part at the end of a way.
def part? : Predicate → Way → Option Predicate
  | p, [] => some p
  | and l _, .left :: way => l.part? way
  | or l _, .left :: way => l.part? way
  | and _ r, .right :: way => r.part? way
  | or _ r, .right :: way => r.part? way
  | not p, .inner :: way => p.part? way
  | _, _ => none

-- With another part at the end of a way, if the way leads somewhere.
def replace (part : Predicate) : Predicate → Way → Predicate
  | _, [] => part
  | and l r, .left :: way => and (replace part l way) r
  | or l r, .left :: way => or (replace part l way) r
  | and l r, .right :: way => and l (replace part r way)
  | or l r, .right :: way => or l (replace part r way)
  | not p, .inner :: way => not (replace part p way)
  | p, _ => p

-- What a predicate says about tags, all of its parts taken together.
def Holds (tags : Tags) : Predicate → Prop
  | const b => b = true
  | and l r => l.Holds tags ∧ r.Holds tags
  | or l r => l.Holds tags ∨ r.Holds tags
  | not p => ¬p.Holds tags
  | compare tag op value => op.Relates ((tags.get? tag).getD "") value
  | like tag pattern => ∃ text, tags.get? tag = some text ∧ pattern.accepts text = true
  | contains tag value => ∃ text, tags.get? tag = some text ∧ value.toList <:+: text.toList
  | startsWith tag value => ∃ text, tags.get? tag = some text ∧ value.toList <+: text.toList
  | endsWith tag value => ∃ text, tags.get? tag = some text ∧ value.toList <:+ text.toList
  | check c => c.holds tags = true

-- The left operand leaves the result to the right one.
def LeavesOpen (tags : Tags) : Predicate → Prop
  | and l _ => l.Holds tags
  | or l _ => ¬l.Holds tags
  | _ => True

-- Wherever the way goes to the right, the left operand there leaves the result open.
def Needs (tags : Tags) (p : Predicate) (way : Way) : Prop :=
  ∀ above below q, way = above ++ .right :: below → p.part? above = some q → q.LeavesOpen tags

-- The first turns that differ go to the left and to the right.
inductive LeftOf : Way → Way → Prop
  | split (way other) : LeftOf (.left :: way) (.right :: other)
  | cons {way other} (turn) : LeftOf way other → LeftOf (turn :: way) (turn :: other)

-- The calls are those of the needed checks from left to right, one for each way to such a check.
structure Runs (tags : Tags) (p : Predicate) (ways : List Way) (calls : List Check) : Prop where
  ordered : ways.Pairwise LeftOf
  needed  : ∀ way, way ∈ ways ↔ (∃ c, p.part? way = some (check c)) ∧ p.Needs tags way
  calls   : List.Forall₂ (fun way c => p.part? way = some (check c)) ways calls

variable {tags : Tags} {p q l r : Predicate} {way : Way}

theorem accepts_iff_holds : p.accepts tags = true ↔ p.Holds tags := by
  induction p
  case const         => rfl
  case and hl hr     => simp [Holds, hl, hr]
  case or hl hr      => simp [Holds, hl, hr]
  case not hp        => simp [Holds, ←hp]
  case compare       => exact accepts_compare_iff
  case like          => exact accepts_like_iff
  case contains      => exact accepts_contains_iff
  case startsWith    => exact accepts_startsWith_iff
  case endsWith      => exact accepts_endsWith_iff
  case check         => rfl

theorem needs_nil : p.Needs tags [] := by
  intro above below q h
  simp at h

theorem needs_cons {turn : Turn} (hq : ∀ way, p.part? (turn :: way) = q.part? way) :
    p.Needs tags (turn :: way) ↔ (turn = .right → p.LeavesOpen tags) ∧ q.Needs tags way := by
  constructor
  case mp =>
    intro h
    refine ⟨fun ht => h [] way p (by simp [ht]) (by simp [part?]), ?_⟩
    intro above below s hw hs
    exact h (turn :: above) below s (by simp [hw]) (by rw [hq, hs])
  case mpr =>
    intro ⟨ho, h⟩ above below s hw hs
    cases above
    case nil =>
      simp only [List.nil_append, List.cons.injEq] at hw
      simp only [part?, Option.some.injEq] at hs
      exact hs ▸ ho hw.left
    case cons =>
      simp only [List.cons_append, List.cons.injEq] at hw
      rw [←hw.left, hq] at hs
      exact h _ _ _ hw.right hs

-- The ways to the checks that an evaluation runs.
def callWays (tags : Tags) : Predicate → List Way
  | and l r =>
    (l.callWays tags).map (.left :: ·) ++
      if l.accepts tags then (r.callWays tags).map (.right :: ·) else []
  | or l r =>
    (l.callWays tags).map (.left :: ·) ++
      if !l.accepts tags then (r.callWays tags).map (.right :: ·) else []
  | not p => (p.callWays tags).map (.inner :: ·)
  | check _ => [[]]
  | _ => []

theorem evaluate_and : (and l r).evaluate tags =
    if l.accepts tags then (l.evaluate tags).followedBy (r.evaluate tags) else l.evaluate tags :=
  rfl

theorem evaluate_or : (or l r).evaluate tags =
    if l.accepts tags then l.evaluate tags else (l.evaluate tags).followedBy (r.evaluate tags) :=
  rfl

theorem calls_and : ((and l r).evaluate tags).calls =
    (l.evaluate tags).calls ++ if l.accepts tags then (r.evaluate tags).calls else [] := by
  cases h : l.accepts tags <;> simp [evaluate_and, h, Evaluation.followedBy]

theorem calls_or : ((or l r).evaluate tags).calls =
    (l.evaluate tags).calls ++ if !l.accepts tags then (r.evaluate tags).calls else [] := by
  cases h : l.accepts tags <;> simp [evaluate_or, h, Evaluation.followedBy]

namespace Runs

variable {ways leftWays rightWays : List Way} {calls leftCalls rightCalls : List Check}

theorem of_leaf (hc : ∀ c, p ≠ check c) (hp : ∀ turn way, p.part? (turn :: way) = none) :
    p.Runs tags [] [] where
  ordered := .nil
  calls   := .nil
  needed way := by
    cases way
    case nil           => simp [part?, hc]
    case cons turn way => simp [hp]

theorem of_check {c : Check} : (check c).Runs tags [[]] [c] where
  ordered := List.pairwise_singleton ..
  calls   := .cons rfl .nil
  needed way := by
    cases way
    case nil           => simp [part?, needs_nil]
    case cons turn way => simp [part?]

theorem mem_map_cons {turn : Turn} (hq : ∀ way, p.part? (turn :: way) = q.part? way)
    (h : q.Runs tags ways calls) :
    way ∈ ways.map (turn :: ·) ↔ ∃ rest, way = turn :: rest ∧
      (∃ c, p.part? way = some (check c)) ∧ q.Needs tags rest := by
  simp only [List.mem_map, h.needed, ←hq]
  grind

theorem pairwise_map_cons (turn : Turn) (h : q.Runs tags ways calls) :
    (ways.map (turn :: ·)).Pairwise LeftOf :=
  List.pairwise_map.mpr <| h.ordered.imp (.cons turn)

theorem forall₂_map_cons {turn : Turn} (hq : ∀ way, p.part? (turn :: way) = q.part? way)
    (h : q.Runs tags ways calls) :
    List.Forall₂ (fun way c => p.part? way = some (check c)) (ways.map (turn :: ·)) calls := by
  refine List.forall₂_map_left_iff.mpr (h.calls.imp ?_)
  intro way c hc
  rw [hq, hc]

theorem not (h : p.Runs tags ways calls) : (Predicate.not p).Runs tags (ways.map (.inner :: ·)) calls where
  ordered := h.pairwise_map_cons _
  calls   := h.forall₂_map_cons fun _ => rfl
  needed way := by
    have hp : ∀ way, p.not.part? (.inner :: way) = p.part? way := fun _ => rfl
    rw [h.mem_map_cons hp]
    rcases way with _ | ⟨_ | _ | _, way⟩ <;> simp [part?, needs_cons hp]

theorem operands {opened : Bool} (ho : opened = true ↔ p.LeavesOpen tags)
    (hl : ∀ way, p.part? (.left :: way) = l.part? way)
    (hr : ∀ way, p.part? (.right :: way) = r.part? way)
    (hi : ∀ way, p.part? (.inner :: way) = none) (hc : ∀ c, p ≠ check c)
    (hpl : l.Runs tags leftWays leftCalls) (hpr : r.Runs tags rightWays rightCalls) :
    p.Runs tags
      (leftWays.map (.left :: ·) ++ if opened then rightWays.map (.right :: ·) else [])
      (leftCalls ++ if opened then rightCalls else []) where
  ordered := by
    refine List.pairwise_append.mpr ⟨hpl.pairwise_map_cons _, ?_, ?_⟩
    · cases opened
      case false => exact .nil
      case true  => exact hpr.pairwise_map_cons _
    · cases opened
      case false => simp
      case true  => simp [LeftOf.split]
  calls := by
    refine List.rel_append (hpl.forall₂_map_cons hl) ?_
    cases opened
    case false => exact .nil
    case true  => exact hpr.forall₂_map_cons hr
  needed way := by
    rcases way with _ | ⟨_ | _ | _, way⟩
    case nil        => cases opened <;> simp [part?, hc]
    case cons.left  => cases opened <;> simp [hpl.needed, needs_cons hl, hl]
    case cons.right => cases opened <;> simp [hpr.needed, needs_cons hr, hr, ←ho]
    case cons.inner => cases opened <;> simp [hi]

end Runs

theorem runs_callWays (p : Predicate) : p.Runs tags (p.callWays tags) (p.evaluate tags).calls := by
  induction p
  case and hl hr =>
    rw [calls_and]
    exact .operands accepts_iff_holds (fun _ => rfl) (fun _ => rfl) (fun _ => rfl) nofun hl hr
  case or hl hr =>
    rw [calls_or]
    refine .operands ?_ (fun _ => rfl) (fun _ => rfl) (fun _ => rfl) nofun hl hr
    simp [LeavesOpen, ←accepts_iff_holds]
  case not hp   => exact hp.not
  case check    => exact .of_check
  all_goals exact .of_leaf nofun (by simp [part?])

-- By induction on the tree: what is not needed lies in an operand that is not looked at, or it is not needed
-- in the operand that it lies in.
theorem replace_of_not_needed (part : Predicate) (hw : ¬p.Needs tags way) :
    (replace part p way).evaluate tags = p.evaluate tags ∧
    (replace part p way).callWays tags = p.callWays tags := by
  induction p generalizing way <;> rcases way with _ | ⟨_ | _ | _, way⟩
  all_goals try exact absurd needs_nil hw
  all_goals try exact ⟨rfl, rfl⟩
  all_goals rw [needs_cons fun _ => rfl] at hw
  case and.cons.left l _ hi _ | or.cons.left l _ hi _ =>
    have hn : ¬l.Needs tags way := by simpa using hw
    have ⟨he, hc⟩ := hi hn
    have ha : (replace part l way).accepts tags = l.accepts tags := congrArg _ he
    simp only [replace, evaluate_and, evaluate_or, callWays, he, hc, ha, and_self]
  case and.cons.right l r _ hi =>
    cases h : l.accepts tags
    case false => simp [replace, callWays, evaluate_and, h]
    case true  =>
      have hn : ¬r.Needs tags way := by simpa [LeavesOpen, ←accepts_iff_holds, h] using hw
      simp [replace, callWays, evaluate_and, h, hi hn]
  case or.cons.right l r _ hi =>
    cases h : l.accepts tags
    case true  => simp [replace, callWays, evaluate_or, h]
    case false =>
      have hn : ¬r.Needs tags way := by simpa [LeavesOpen, ←accepts_iff_holds, h] using hw
      simp [replace, callWays, evaluate_or, h, hi hn]
  case not.cons.inner p hi =>
    have hn : ¬p.Needs tags way := by simpa using hw
    simp [replace, evaluate, callWays, hi hn]

-- What an evaluation results in, which checks it runs, and that any check it does not run may be another.
theorem evaluate_runs_needed_checks (p : Predicate) (tags : Tags) :
    (p.accepts tags = true ↔ p.Holds tags) ∧
    ∃ ways, p.Runs tags ways (p.evaluate tags).calls ∧
      ∀ way c other, p.part? way = some (check c) → way ∉ ways →
        (replace (check other) p way).evaluate tags = p.evaluate tags ∧
        (replace (check other) p way).Runs tags ways (p.evaluate tags).calls := by
  have hr : p.Runs tags _ _ := runs_callWays p
  refine ⟨accepts_iff_holds, _, hr, ?_⟩
  intro way c other hc hw
  have hn : ¬p.Needs tags way := fun hn => hw <| hr.needed way |>.mpr ⟨⟨c, hc⟩, hn⟩
  have ⟨he, hws⟩ := replace_of_not_needed (check other) hn
  exact ⟨he, hws ▸ he ▸ runs_callWays (replace (check other) p way)⟩

-- (a AND b) OR NOT c
theorem evaluate_runs_needed_checks_skipped_operand :
    let failing name : Check := ⟨name, fun _ => false⟩
    let p := or (and (check (failing "a")) (check (failing "b"))) (not (check (failing "c")))
    p.Holds .empty ∧ (p.evaluate .empty).calls = [failing "a", failing "c"] ∧
    p.part? [.left, .right] = some (check (failing "b")) ∧
    ∀ other, (replace (check other) p [.left, .right]).evaluate .empty = p.evaluate .empty := by
  intro failing p
  have ⟨ha, ways, hr, hs⟩ := evaluate_runs_needed_checks p .empty
  have hw : [.left, .right] ∉ ways := by
    intro h
    have : (and (check (failing "a")) (check (failing "b"))).LeavesOpen .empty :=
      (hr.needed _ |>.mp h).right [.left] [] _ rfl rfl
    simp [LeavesOpen, Holds, failing] at this
  exact ⟨ha.mp rfl, rfl, rfl, fun other => (hs _ _ other rfl hw).left⟩

end JournalSelect.Predicate
