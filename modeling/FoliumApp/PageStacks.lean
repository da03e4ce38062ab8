import Mathlib.Data.List.Basic
import Mathlib.Tactic

/-!
# Stacks of pages

A page is opened from the one that is shown and covers it, or it is shown on
its own.  Which page opens which is a graph; a stack lists its pages from the
top, each opened from the one below it.  What is passed down from a page to
those it can be opened from holds of everything below, and in a graph without
circles no stack is higher than the rank of its top.
-/

namespace PageStacks

variable {Page : Type}

structure Graph (Page : Type) where
  root : Page → Prop
  opens : Page → Page → Prop

inductive Stacked (graph : Graph Page) : List Page → Prop where
  | empty : Stacked graph []
  | root {page : Page} (hroot : graph.root page) : Stacked graph [page]
  | opened {above below : Page} {rest : List Page}
      (hopens : graph.opens below above)
      (hbelow : Stacked graph (below :: rest)) :
      Stacked graph (above :: below :: rest)

variable {graph : Graph Page} {top : Page} {rest : List Page}

theorem Stacked.uncovered (hstacked : Stacked graph (top :: rest)) :
    Stacked graph rest := by
  cases hstacked with
  | root hroot => exact .empty
  | opened hopens hbelow => exact hbelow

theorem Stacked.tail {pages : List Page} (hstacked : Stacked graph pages) :
    Stacked graph pages.tail := by
  cases pages with
  | nil => exact hstacked
  | cons top rest => exact hstacked.uncovered

/-- What a page passes down holds of all pages below it. -/
theorem Stacked.forall_mem {good : Page → Prop}
    (hdown : ∀ below above, graph.opens below above → good above →
      good below)
    (hstacked : Stacked graph (top :: rest)) (htop : good top) :
    ∀ page ∈ top :: rest, good page := by
  induction rest generalizing top with
  | nil =>
      intro page hmem
      rw [List.mem_singleton.mp hmem]
      exact htop
  | cons below rest ih =>
      cases hstacked with
      | opened hopens hbelow =>
          intro page hmem
          rcases List.mem_cons.mp hmem with rfl | hmem
          · exact htop
          · exact ih hbelow (hdown below top hopens htop) page hmem

theorem Stacked.length_le {rank : Page → ℕ}
    (hroot : ∀ page, graph.root page → 0 < rank page)
    (hopens : ∀ below above, graph.opens below above →
      rank below < rank above)
    (hstacked : Stacked graph (top :: rest)) :
    (top :: rest).length ≤ rank top := by
  induction rest generalizing top with
  | nil =>
      cases hstacked with
      | root hpage => exact hroot top hpage
  | cons below rest ih =>
      cases hstacked with
      | opened hbelow hstacked =>
          have hheight := ih hstacked
          have hrank := hopens below top hbelow
          rw [List.length_cons]
          omega

end PageStacks
