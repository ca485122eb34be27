import Folio.Blog.Record
import Folio.Proofs.Calendar.Writing
import Folio.Proofs.Json.Record

/-!
# Posts survive JSON

The text of a post and that of a listing are read as what they were made of, whatever texts they
hold and whatever their dates are.
-/

namespace Folio.Blog

open Folio.Json (Fits Record Value fits_anyText fits_texts)
open Folio.Json.Record (bind_field? fitted_of_entries fitted_of_write)
open Folio.Json.Shape (Entry)

/-- A written date fits. -/
theorem fits_date (date : Calendar.Instant) : Fits dateShape (writeDate date) (writeDate date) :=
  .text (by simp [date.read?_text])

/-- A written date is that date. -/
theorem readDate?_writeDate (date : Calendar.Instant) : readDate? (writeDate date) = some date := by
  simp [readDate?, writeDate, Value.text?, date.read?_text]

/-- Summaries fit their shape. -/
theorem Meta.fitted : Record.Fitted Meta := by
  refine fitted_of_write rfl (fun _ => rfl) (fun _ => by simp) (fun post => ?_) (fun _ => rfl)
    fun post => ?_
  · simp only [List.forall_mem_cons, List.not_mem_nil, false_imp_iff, implies_true, and_true]
    exact ⟨⟨_, _, rfl, fits_anyText _⟩, ⟨_, _, rfl, fits_anyText _⟩, ⟨_, _, rfl, fits_anyText _⟩,
      ⟨_, _, rfl, fits_anyText _⟩, ⟨_, _, rfl, fits_date _⟩, _, _, rfl, fits_texts _⟩
  · refine bind_field? rfl rfl ?_
    refine bind_field? rfl rfl ?_
    refine bind_field? rfl rfl ?_
    refine bind_field? rfl rfl ?_
    refine bind_field? rfl (readDate?_writeDate _) ?_
    exact bind_field? rfl (Value.listOf?_texts _) rfl

/-- Posts fit their shape. -/
theorem Post.fitted : Record.Fitted Post := by
  obtain ⟨found, hfound⟩ := Meta.fitted
  refine fitted_of_entries
    (fun post =>
      [⟨"meta", Record.write post.summary, found post.summary⟩, .same "html" (.text post.html)])
    _ rfl (fun _ => rfl) (fun _ => by simp [Entry.same]) (fun post => ?_) (fun _ => rfl)
    fun post => ?_
  · simp only [List.forall_mem_cons, List.not_mem_nil, false_imp_iff, implies_true, and_true]
    exact ⟨⟨_, _, rfl, (hfound _).1⟩, _, _, rfl, fits_anyText _⟩
  · refine bind_field? rfl (hfound _).2 ?_
    exact bind_field? rfl rfl rfl

/-- Summaries are read as they are written. -/
theorem Meta.lawful : Record.Lawful Meta := Meta.fitted.lawful

/-- Posts are read as they are written. -/
theorem Post.lawful : Record.Lawful Post := Post.fitted.lawful

/-- Posts and the summaries of listings survive JSON, whatever texts they hold, however many tags
they have and whenever they were published. -/
theorem posts_survive_json : Record.Survives Post ∧ Record.Survives Meta :=
  ⟨Post.lawful.survives, Meta.lawful.survives⟩

end Folio.Blog
