import FuzzyRank.Proofs.Ranking
import Mathlib.Logic.Relation

/-!
Candidates shared out among workers.

Every worker has buffers of its own, in whatever state, and a share of the candidates, which it
works through in an order of its own choice. The workers take turns in any way, and matches are
collected in any order. What is found and what is still to be found are together always the matches
of all candidates, and ranks put them into one order: so the ranking is the one that a single worker
gives.
-/

namespace FuzzyRank

open FuzzyRank.Alignment

/-- A worker: its buffers, and what it has still to score of its share. -/
structure Worker where
  workspace : Workspace
  share : List (String × Nat)

/-- Workers with the matches that they have found so far. -/
structure Pool where
  workers : List Worker
  found : List RankedMatch

namespace Pool

/-- The candidates that no worker has scored yet. -/
def waiting (pool : Pool) : List (String × Nat) :=
  pool.workers.flatMap (·.share)

/-- All candidates are shared out, and none has been scored. -/
structure Starts (candidates : List String) (pool : Pool) : Prop where
  waiting_perm : pool.waiting.Perm candidates.zipIdx
  found_eq : pool.found = []

/-- Some worker scores some candidate of its share. A match goes to any place among those found. -/
inductive Step (e : Engine) : Pool → Pool → Prop
  | score {before after : List Worker} {workspace : Workspace} {share rest : List (String × Nat)}
      {candidate : String × Nat} {found found' : List RankedMatch}
      (picked : share.Perm (candidate :: rest))
      (collected : found'.Perm ((e.rankCandidate candidate workspace).1.toList ++ found)) :
      Step e ⟨before ++ ⟨workspace, share⟩ :: after, found⟩
        ⟨before ++ ⟨(e.rankCandidate candidate workspace).2, rest⟩ :: after, found'⟩

/-- Any number of steps. -/
abbrev Run (e : Engine) : Pool → Pool → Prop :=
  Relation.ReflTransGen (Step e)

variable {e : Engine} {pool next : Pool} {candidates : List String}

/-! ## One step -/

/-- A step takes a candidate from those that wait and adds its match, if it has one. The worker's
buffers have no part in it. -/
theorem Step.exists_candidate (h : Step e pool next) : ∃ candidate,
    pool.waiting.Perm (candidate :: next.waiting) ∧
      next.found.Perm ((e.entry? candidate).toList ++ pool.found) := by
  cases h with
  | @score before after workspace share rest candidate found found' picked collected =>
    refine ⟨candidate, ?_, ?_⟩
    · simp only [waiting, List.flatMap_append, List.flatMap_cons]
      calc before.flatMap (·.share) ++ (share ++ after.flatMap (·.share))
          |>.Perm (before.flatMap (·.share) ++ (candidate :: rest ++ after.flatMap (·.share))) :=
            (picked.append_right _).append_left _
        _ |>.Perm (candidate :: (before.flatMap (·.share) ++ (rest ++ after.flatMap (·.share)))) :=
            List.perm_middle
    · rwa [e.rankCandidate_fst] at collected

/-- The matches that are found and those that wait to be found. -/
def due (e : Engine) (pool : Pool) : List RankedMatch :=
  pool.found ++ e.matched pool.waiting

theorem Step.due_perm (h : Step e pool next) : (next.due e).Perm (pool.due e) := by
  obtain ⟨candidate, hwaiting, hfound⟩ := h.exists_candidate
  have hmatched : (e.matched pool.waiting).Perm
      ((e.entry? candidate).toList ++ e.matched next.waiting) := by
    refine (hwaiting.filterMap e.entry?).trans (List.Perm.of_eq ?_)
    rw [List.filterMap_cons]
    cases e.entry? candidate <;> rfl
  calc next.found ++ e.matched next.waiting
      |>.Perm ((e.entry? candidate).toList ++ pool.found ++ e.matched next.waiting) :=
        hfound.append_right _
    _ |>.Perm (pool.found ++ ((e.entry? candidate).toList ++ e.matched next.waiting)) := by
        rw [← List.append_assoc]
        exact List.perm_append_comm.append_right _
    _ |>.Perm (pool.found ++ e.matched pool.waiting) := hmatched.symm.append_left _

/-- Every step leaves one candidate less to score. -/
theorem Step.length_waiting (h : Step e pool next) :
    next.waiting.length + 1 = pool.waiting.length := by
  obtain ⟨candidate, hwaiting, _⟩ := h.exists_candidate
  rw [hwaiting.length_eq, List.length_cons]

/-- As long as a candidate waits, its worker can go on. -/
theorem exists_step (e : Engine) (h : pool.waiting ≠ []) : ∃ next, Step e pool next := by
  obtain ⟨workers, found⟩ := pool
  obtain ⟨candidate, hmem⟩ := List.exists_mem_of_ne_nil _ h
  obtain ⟨⟨workspace, share⟩, hworker, hshare⟩ := List.mem_flatMap.mp hmem
  obtain ⟨before, after, rfl⟩ := List.append_of_mem hworker
  obtain ⟨front, back, rfl⟩ := List.append_of_mem hshare
  exact ⟨_, .score List.perm_middle (List.Perm.refl _)⟩

/-! ## Many steps -/

theorem Run.due_perm {rest : Pool} (h : Run e pool rest) : (rest.due e).Perm (pool.due e) := by
  induction h with
  | refl => exact List.Perm.refl _
  | tail _ hstep ih => exact hstep.due_perm.trans ih

/-- What has been found when nothing waits any more are the matches of all candidates. -/
theorem Run.found_perm {rest : Pool} (hstart : pool.Starts candidates) (h : Run e pool rest)
    (hrest : rest.waiting = []) : rest.found.Perm (e.matched candidates.zipIdx) := by
  have hdue := h.due_perm
  simp only [due, hstart.found_eq, hrest, List.nil_append] at hdue
  rw [show e.matched [] = [] from rfl, List.append_nil] at hdue
  exact hdue.trans (hstart.waiting_perm.filterMap e.entry?)

end Pool

namespace Engine

/-! ## Shares of equal size -/

/-- The pieces of a list are the list. -/
theorem flatten_pieces {α : Type} (size : Nat) (xs : List α) : (pieces size xs).flatten = xs := by
  induction xs using pieces.induct size with
  | case1 => rw [pieces, List.flatten_nil]
  | case2 x rest ih =>
    rw [pieces, List.flatten_cons, ih, List.cons_append, List.take_append_drop]

/-- However many workers there are, they rank as one. -/
theorem rankShared_eq_rank (e : Engine) (workers : Nat) (candidates : List String) :
    e.rankShared workers candidates = e.rank candidates := by
  unfold rankShared
  simp only [rankShare_fst]
  generalize (candidates.length - 1) / max workers 1 = size
  rw [rank_eq]
  unfold matched
  conv_rhs => rw [← flatten_pieces size candidates.zipIdx]
  rw [List.filterMap_flatten, List.flatMap_def]

/-- However candidates are shared out, whatever is left in the workers' buffers and whatever turns
the workers take: what they have found in the end, sorted by rank in any way, is the ranking that
one worker gives. Work goes on as long as a candidate waits, and comes to an end. -/
theorem rank_of_any_schedule (e : Engine) (candidates : List String) :
    (∀ start rest ranked, Pool.Starts candidates start → Pool.Run e start rest →
        rest.waiting = [] → ranked.Perm rest.found →
          ranked.Pairwise (fun a b => a.rank.le b.rank) → ranked = e.rank candidates) ∧
      (∀ pool : Pool, pool.waiting ≠ [] → ∃ next, Pool.Step e pool next) ∧
      (∀ pool next, Pool.Step e pool next → next.waiting.length + 1 = pool.waiting.length) ∧
      ∀ workers, e.rankShared workers candidates = e.rank candidates := by
  refine ⟨?_, fun pool h => pool.exists_step e h, fun _ _ h => h.length_waiting,
    fun workers => e.rankShared_eq_rank workers candidates⟩
  intro start rest ranked hstart hrun hrest hperm hsorted
  have hfound := hrun.found_perm hstart hrest
  rw [rank_eq]
  exact eq_sortByRank (e.matched_pairwise_index candidates) (hperm.trans hfound) hsorted

/-- Two workers with a candidate each. The first has read another text before. -/
def twoWorkers : Pool :=
  ⟨[⟨⟨⟨#[some ⟨900, 2, none⟩], #[[some ⟨700, 3⟩]], #[]⟩, #[8], ⟨#[5], #[0, 1]⟩⟩, [("yab", 1)]⟩,
    ⟨Workspace.empty, [("xa_-b", 0)]⟩], []⟩

/-- The second candidate is scored first and found to have the tighter span at the same score. -/
theorem rank_of_any_schedule_ab :
    ∃ rest, Pool.Starts ["xa_-b", "yab"] twoWorkers ∧
      Pool.Run ⟨"ab", .ignore, default, false⟩ twoWorkers rest ∧ rest.waiting = [] ∧
      rest.found.map (fun r => (r.text, r.result.score, r.result.span)) =
        [("xa_-b", 36, 4), ("yab", 36, 2)] ∧
      rest.found.reverse.Pairwise (fun a b => a.rank.le b.rank) ∧
      rest.found.reverse = rank ⟨"ab", .ignore, default, false⟩ ["xa_-b", "yab"] := by
  let e : Engine := ⟨"ab", .ignore, default, false⟩
  let first : Pool := ⟨[⟨(e.rankCandidate ("yab", 1) (twoWorkers.workers[0].workspace)).2, []⟩,
    ⟨Workspace.empty, [("xa_-b", 0)]⟩], e.matched [("yab", 1)]⟩
  let rest : Pool := ⟨[⟨(e.rankCandidate ("yab", 1) (twoWorkers.workers[0].workspace)).2, []⟩,
    ⟨(e.rankCandidate ("xa_-b", 0) Workspace.empty).2, []⟩],
    e.matched [("xa_-b", 0), ("yab", 1)]⟩
  have hstart : Pool.Starts ["xa_-b", "yab"] twoWorkers := ⟨by decide, rfl⟩
  have hfirst : Pool.Step e twoWorkers first := by
    refine @Pool.Step.score e [] _ _ _ _ _ _ _ (List.Perm.refl _) (List.Perm.of_eq ?_)
    decide +kernel
  have hsecond : Pool.Step e first rest := by
    refine @Pool.Step.score e [_] _ _ _ _ _ _ _ (List.Perm.refl _) (List.Perm.of_eq ?_)
    decide +kernel
  have hrun : Pool.Run e twoWorkers rest := (Relation.ReflTransGen.single hfirst).tail hsecond
  have hsorted : rest.found.reverse.Pairwise (fun a b => a.rank.le b.rank) := by decide +kernel
  exact ⟨rest, hstart, hrun, rfl, by decide +kernel, hsorted,
    (rank_of_any_schedule e ["xa_-b", "yab"]).1 twoWorkers rest _ hstart hrun rfl
      (List.reverse_perm _) hsorted⟩

end Engine
end FuzzyRank
