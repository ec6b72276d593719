import TenantSql.Error

/-! What contexts make of an error. The texts of an error, from the outside in, are its
message and what lies behind it, and a context is put in front of them and changes none.
Its class and whether it is fatal are those of the error inside, however deep that is, and
the two are never at odds: three classes are faults of one request, and an error is fatal
exactly if it is in none of them. -/
namespace TenantSql.ErrorContexts
open Error

/-- All texts of an error, from the outside in. -/
def texts (error : Error) : List String := error.message :: error.causes

/-- The classes of errors that are faults of one request. -/
def requestCodes : List String := ["E_INVALID_SORT", "E_IO", "E_JSON"]

@[simp] theorem withContexts_nil (error : Error) : error.withContexts [] = error := rfl

@[simp] theorem withContexts_cons (error : Error) (context : String) (contexts : List String) :
    error.withContexts (context :: contexts) = (within context error).withContexts contexts := rfl

/-- What looks through a single context looks through any number of them. -/
theorem view_withContexts {β : Type} {view : Error → β}
    (through : ∀ context inner, view (within context inner) = view inner) (error : Error) (contexts : List String) :
    view (error.withContexts contexts) = view error := by
  induction contexts generalizing error with
  | nil => rfl
  | cons context contexts ih => rw [withContexts_cons, ih, through]

theorem code_withContexts (error : Error) (contexts : List String) :
    (error.withContexts contexts).code = error.code :=
  view_withContexts (fun _ _ => rfl) error contexts

theorem isFatal_withContexts (error : Error) (contexts : List String) :
    (error.withContexts contexts).isFatal = error.isFatal :=
  view_withContexts (fun _ _ => rfl) error contexts

/-- Contexts stand before the texts of an error, the latest first. -/
theorem texts_withContexts (error : Error) (contexts : List String) :
    texts (error.withContexts contexts) = contexts.reverse ++ texts error := by
  induction contexts generalizing error with
  | nil => rfl
  | cons context contexts ih =>
    have inside : texts (within context error) = context :: texts error := rfl
    rw [withContexts_cons, ih, inside, List.reverse_cons, List.append_assoc, List.singleton_append]

/-- An error is fatal exactly if its class is not one of those of single requests. The
contexts hand on both from the error inside. -/
theorem isFatal_iff (error : Error) : error.isFatal = true ↔ error.code ∉ requestCodes := by
  induction error with
  | within context inner ih => exact ih
  | _ => simp only [isFatal, code]; decide

/-- Of several contexts the latest is the message, and the others lie behind it. -/
theorem texts_latest (error : Error) (earlier : List String) (latest : String) :
    (error.withContexts (earlier ++ [latest])).message = latest ∧
      (error.withContexts (earlier ++ [latest])).causes = earlier.reverse ++ texts error := by
  have all := texts_withContexts error (earlier ++ [latest])
  rw [List.reverse_append, List.reverse_singleton, List.singleton_append, List.cons_append] at all
  exact List.cons.inj all

/-- For every error, wrapped already or not, and contexts added to it one after the other.
The error in its contexts is of the class of the first one and as fatal, and it is fatal
exactly if its class is none of the three of single requests. Without contexts the texts
are those of the error. With contexts the latest is the message, and behind it lie the
earlier ones, the later ones first, then the message of the error and what lay behind
that, each text once. -/
theorem contexts_change_texts_alone (error : Error) :
    (∀ contexts, (error.withContexts contexts).code = error.code ∧
      (error.withContexts contexts).isFatal = error.isFatal ∧
      ((error.withContexts contexts).isFatal = true ↔ (error.withContexts contexts).code ∉ requestCodes)) ∧
    ((error.withContexts []).message = error.message ∧ (error.withContexts []).causes = error.causes) ∧
    ∀ earlier latest, (error.withContexts (earlier ++ [latest])).message = latest ∧
      (error.withContexts (earlier ++ [latest])).causes = earlier.reverse ++ error.message :: error.causes := by
  refine ⟨fun contexts => ?_, ⟨rfl, rfl⟩, texts_latest error⟩
  exact ⟨code_withContexts error contexts, isFatal_withContexts error contexts, isFatal_iff _⟩

/-- A file that was not found, behind two contexts. -/
example : texts ((io .notFound).withContexts ["reading the settings", "starting"]) =
    ["starting", "reading the settings", "IO error: No such file or directory (os error 2)",
      "No such file or directory (os error 2)"] := by decide

end TenantSql.ErrorContexts
