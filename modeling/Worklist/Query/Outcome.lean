import Worklist.Query.Error
import Worklist.Sql.Statement

/-!
# Outcomes

What became of a query: its answer or its error, and the statements that were put to the store on
the way, which an error keeps.
-/

set_option autoImplicit false

namespace Worklist

/-- An answer or an error, after some statements. -/
structure Outcome (α : Type) where
  statements : List Sql.Statement
  result : Except QueryError α

namespace Outcome

/-- An answer or an error without any statement. -/
def ofExcept {α : Type} (result : Except QueryError α) : Outcome α :=
  ⟨[], result⟩

/-- Goes on from an answer; an error stays one. -/
def andThen {α β : Type} (o : Outcome α) (next : α → Outcome β) : Outcome β :=
  match o.result with
  | .ok a => ⟨o.statements ++ (next a).statements, (next a).result⟩
  | .error e => ⟨o.statements, .error e⟩

instance : Monad Outcome where
  pure a := ofExcept (.ok a)
  bind := andThen

/-- After an answer the statements of both steps stand in order, and the second result counts. -/
theorem andThen_of_ok {α β : Type} {o : Outcome α} {a : α} (next : α → Outcome β)
    (h : o.result = .ok a) :
    o.andThen next = ⟨o.statements ++ (next a).statements, (next a).result⟩ := by
  unfold andThen
  rw [h]

/-- After an error nothing more is done. -/
theorem andThen_of_error {α β : Type} {o : Outcome α} {e : QueryError} (next : α → Outcome β)
    (h : o.result = .error e) : o.andThen next = ⟨o.statements, .error e⟩ := by
  unfold andThen
  rw [h]

/-- The outcome of one statement. -/
def ofStatement {α : Type} (statement : Sql.Statement) (result : Except StoreError α) :
    Outcome α :=
  ⟨[statement], result.mapError QueryError.store⟩

end Outcome

end Worklist
