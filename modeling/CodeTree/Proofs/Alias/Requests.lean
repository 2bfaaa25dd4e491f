import CodeTree.Proofs.Alias.Table

/-! Requests for aliases, one after another and each with its own outcome. A table stays consistent
whatever the strategy answers, and the outcome of a request is settled by the state it meets. -/
namespace CodeTree.Alias

/-- A request for the alias of an identifier. A strategy may have a memory, so each request carries
what the strategy would answer at that moment. -/
structure Request where
  symbol : String
  strategy : Strategy

section Refusal
variable {answer : Answer} {symbol : String}

end Refusal

theorem ask_run (symbol : String) (table : Table) :
    (ask symbol).run table =
      match table.wordFor symbol with
      | .ok (word, after) => .ok word after
      | .error e => .error e table := by
  rw [ask, EStateM.run_bind, EStateM.run_get]
  dsimp only
  cases table.wordFor symbol <;> rfl

namespace Table

/-- The table with what its strategy answers now. -/
def consulting (table : Table) (strategy : Strategy) : Table :=
  { table with strategy }

/-- The outcome of a request, with the table that it leaves. -/
def answer (table : Table) (request : Request) : EStateM.Result Error Table String :=
  (ask request.symbol).run (table.consulting request.strategy)

/-- The table that a request leaves, whether it is granted or not. -/
def after (table : Table) (request : Request) : Table :=
  match table.answer request with
  | .ok _ after => after
  | .error _ after => after

def afterAll (table : Table) (requests : List Request) : Table :=
  requests.foldl after table

section Outcome
variable {table after : Table} {request : Request} {word : String} {e : Error}

theorem answer_eq_ok_iff :
    table.answer request = .ok word after ↔
      (table.consulting request.strategy).wordFor request.symbol = .ok (word, after) := by
  rw [answer, ask_run]
  cases (table.consulting request.strategy).wordFor request.symbol with
  | error e => exact ⟨nofun, nofun⟩
  | ok found => simp [Prod.ext_iff]

theorem answer_eq_error_iff :
    table.answer request = .error e after ↔
      (table.consulting request.strategy).wordFor request.symbol = .error e ∧
        after = table.consulting request.strategy := by
  rw [answer, ask_run]
  cases (table.consulting request.strategy).wordFor request.symbol with
  | error e' => simp [eq_comm]
  | ok found => exact ⟨nofun, nofun⟩

theorem grown_consulting (table : Table) (strategy : Strategy) :
    table.Grown (table.consulting strategy) :=
  ⟨rfl, fun _ _ h => h⟩

/-- A granted request is recorded, and no entry is lost by it. -/
theorem grown_of_answer_ok (h : table.answer request = .ok word after) :
    table.Grown after ∧ after.get? request.symbol = some word := by
  obtain ⟨hkept, hget⟩ := grown_wordFor (answer_eq_ok_iff.mp h)
  exact ⟨(grown_consulting table request.strategy).trans hkept, hget⟩

end Outcome

section Run
variable {table : Table}

/-- A request keeps every entry of a table, granted or not. -/
theorem grown_after (table : Table) (request : Request) : table.Grown (table.after request) := by
  unfold Table.after
  cases h : table.answer request with
  | ok word after => exact (grown_of_answer_ok h).1
  | error e after =>
    rw [(answer_eq_error_iff.mp h).2]
    exact grown_consulting table request.strategy

theorem grown_afterAll (table : Table) (requests : List Request) :
    table.Grown (table.afterAll requests) := by
  induction requests generalizing table with
  | nil => exact .refl table
  | cons request requests ih => exact (grown_after table request).trans (ih (table.after request))

theorem Consistent.consulting (ht : table.Consistent) (strategy : Strategy) :
    (table.consulting strategy).Consistent :=
  ⟨ht.words_nodup, ht.unmarked, ht.symbols_nodup, ht.injective, ht.listed, ht.used_iff⟩

/-- A request keeps a table consistent, granted or not. -/
theorem Consistent.after (ht : table.Consistent) (request : Request) :
    (table.after request).Consistent := by
  have hc := ht.consulting request.strategy
  unfold Table.after
  cases h : table.answer request with
  | ok word after => exact hc.wordFor (answer_eq_ok_iff.mp h)
  | error e after =>
    rw [(answer_eq_error_iff.mp h).2]
    exact hc

theorem Consistent.afterAll (ht : table.Consistent) (requests : List Request) :
    (table.afterAll requests).Consistent := by
  induction requests generalizing table with
  | nil => exact ht
  | cons request requests ih => exact ih (ht.after request)

/-- Some requests lead from one table to the other. -/
def Leads (table after : Table) : Prop :=
  ∃ requests, table.afterAll requests = after

theorem Leads.refl (table : Table) : table.Leads table :=
  ⟨[], rfl⟩

theorem Leads.trans {a b c : Table} (hab : a.Leads b) (hbc : b.Leads c) : a.Leads c := by
  obtain ⟨first, rfl⟩ := hab
  obtain ⟨second, rfl⟩ := hbc
  exact ⟨first ++ second, List.foldl_append⟩

theorem Leads.grown {after : Table} (h : table.Leads after) : table.Grown after := by
  obtain ⟨requests, rfl⟩ := h
  exact grown_afterAll table requests

theorem Leads.consistent {after : Table} (h : table.Leads after) (ht : table.Consistent) :
    after.Consistent := by
  obtain ⟨requests, rfl⟩ := h
  exact ht.afterAll requests

theorem leads_wordFor {after : Table} {symbol word : String}
    (h : table.wordFor symbol = .ok (word, after)) : table.Leads after := by
  refine ⟨[⟨symbol, table.strategy⟩], ?_⟩
  have ha : table.answer ⟨symbol, table.strategy⟩ = .ok word after := answer_eq_ok_iff.mpr h
  simp only [afterAll, List.foldl_cons, List.foldl_nil, Table.after, ha]

/-- The tables that a run can meet: those to which requests lead from a fresh one. -/
def Reachable (table : Table) : Prop :=
  ∃ words strategy, (ofWords words strategy).Leads table

theorem reachable_ofWords (words : List String) (strategy : Strategy) :
    (ofWords words strategy).Reachable :=
  ⟨words, strategy, .refl _⟩

theorem Reachable.consistent (h : table.Reachable) : table.Consistent := by
  obtain ⟨words, strategy, hleads⟩ := h
  exact hleads.consistent (consistent_ofWords words strategy)

end Run

end Table
end CodeTree.Alias
