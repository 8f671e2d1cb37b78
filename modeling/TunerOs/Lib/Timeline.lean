-- SUMMARY: Items in the order of their times: the last one up to a time, looked up in a window of them and in what came before it.
import Mathlib.Data.List.Basic
import Mathlib.Order.Lattice

/-!
# Timelines

A list of items in the order of their times is cut into a window and the last item
before it. Within the window, the last item up to any time is found in one of the two.
-/

namespace Timeline

variable {α ι : Type*} [LinearOrder ι] {time : α → ι}

/-- The items up to a time. -/
def upTo (time : α → ι) (t : ι) (items : List α) : List α := items.filter (time · ≤ t)

/-- The items of a window. -/
def between (time : α → ι) (start stop : ι) (items : List α) : List α :=
  items.filter (fun a => start ≤ time a ∧ time a ≤ stop)

/-- Items in order up to a time are those before the window and those of the window. -/
theorem upTo_eq_append {start t : ι} {items : List α}
    (hsorted : items.Pairwise (fun a b => time a ≤ time b)) (hstart : start ≤ t) :
    upTo time t items = items.filter (time · < start) ++ between time start t items := by
  induction items with
  | nil => rfl
  | cons a rest ih =>
    obtain ⟨hle, hrest⟩ := List.pairwise_cons.1 hsorted
    have ih := ih hrest
    unfold upTo between at ih ⊢
    by_cases hbefore : time a < start
    · have hup : time a ≤ t := (hbefore.trans_le hstart).le
      rw [List.filter_cons_of_pos (by simpa using hup), List.filter_cons_of_pos (by simpa using hbefore),
        List.filter_cons_of_neg (by simpa using fun hge => absurd hbefore (not_lt.2 hge)), ih,
        List.cons_append]
    · have hlater : ∀ b ∈ a :: rest, start ≤ time b := by
        intro b hmem
        rcases List.mem_cons.1 hmem with rfl | hmem
        · exact not_lt.1 hbefore
        · exact (not_lt.1 hbefore).trans (hle b hmem)
      have hnone : (a :: rest).filter (time · < start) = [] := by
        rw [List.filter_eq_nil_iff]
        intro b hmem
        simpa using hlater b hmem
      rw [hnone, List.nil_append]
      refine List.filter_congr fun b hmem => ?_
      simp [hlater b hmem]

/-- The last item up to a time in a window is the last one in the window, or else the last
one up to its start. -/
theorem getLast?_upTo {start t stop : ι} {items : List α}
    (hsorted : items.Pairwise (fun a b => time a ≤ time b)) (hstart : start ≤ t) (hstop : t ≤ stop) :
    (upTo time t items).getLast? =
      (upTo time t (between time start stop items)).getLast?.or
        ((upTo time start items).getLast?.filter (time · ≤ t)) := by
  have hwindow : upTo time t (between time start stop items) = between time start t items := by
    unfold upTo between
    rw [List.filter_filter]
    refine List.filter_congr fun a _ => ?_
    by_cases hle : time a ≤ t
    · simp [hle, hle.trans hstop]
    · simp [hle]
  have hpast : ∀ a ∈ upTo time start items, time a ≤ t := fun a hmem =>
    (of_decide_eq_true (List.mem_filter.1 hmem).2).trans hstart
  have hkept : (upTo time start items).getLast?.filter (time · ≤ t) =
      (upTo time start items).getLast? := by
    cases hlast : (upTo time start items).getLast? with
    | none => rfl
    | some a =>
      rw [Option.filter_some, if_pos]
      exact decide_eq_true (hpast a (List.mem_of_getLast? hlast))
  rw [hwindow, hkept, upTo_eq_append hsorted hstart, List.getLast?_append]
  cases hbetween : (between time start t items).getLast? with
  | some a => rfl
  | none =>
    -- Nothing happened between the start and `t`, so nothing did at the start.
    rw [List.getLast?_eq_none_iff] at hbetween
    rw [Option.none_or, Option.none_or]
    congr 1
    refine List.filter_congr fun a hmem => ?_
    have hout : ¬ (start ≤ time a ∧ time a ≤ t) := by
      intro hin
      have hfound : a ∈ between time start t items := List.mem_filter.2 ⟨hmem, decide_eq_true hin⟩
      rw [hbetween] at hfound
      cases hfound
    refine decide_eq_decide.2 ⟨le_of_lt, fun hle => ?_⟩
    exact lt_of_le_of_ne hle fun heq => hout ⟨heq.ge, hle.trans hstart⟩

/-- Searching backwards finds the last item that passes a test. -/
theorem find?_reverse (p : α → Bool) (items : List α) :
    items.reverse.find? p = (items.filter p).getLast? := by
  rw [← List.head?_filter, List.filter_reverse, List.head?_reverse]

end Timeline
