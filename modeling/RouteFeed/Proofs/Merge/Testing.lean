import RouteFeed.Proofs.Merge.Drain

/-!
# Which call tests which record

The criteria of a merge may be others at every call. Each call that pulls from a dump goes on where
the last one stopped, and tests records against its own criteria until one passes. So of several
calls in their order the first tests records up to the first that passes, the second goes on behind
it, and so on; no record is tested twice.

## Main definitions

* `testsFrom` — the tests that some calls make on the records of a dump
* `passedBy` — the records that pass them

## Main results

* `testsFrom_concat` — one call more tests what the others left
* `Contents.lane?_eq` — what is open after a pull, told by the tests
* `drop_eq_nil_of_length_passedBy_lt` — who finds no record leaves none untested
-/

namespace RouteFeed

variable {criteria : ℕ → Criteria}

/-- The tests that calls, given by their numbers, make on the records of a dump: each record with
the number of the call that tests it. When a record passes, the next call goes on. -/
def testsFrom (criteria : ℕ → Criteria) : List ℕ → List Decoded → List (ℕ × Decoded)
  | [], _ => []
  | _ :: _, [] => []
  | t :: ts, d :: ds =>
    (t, d) :: testsFrom criteria (if ((criteria t).screen d).isSome then ts else t :: ts) ds

/-- The records that pass some tests, as the criteria of the tests leave them. -/
def passedBy (criteria : ℕ → Criteria) (tests : List (ℕ × Decoded)) : List Decoded :=
  tests.filterMap fun (t, d) => (criteria t).screen d

@[simp] theorem testsFrom_nil (ds : List Decoded) : testsFrom criteria [] ds = [] := by
  cases ds <;> rfl

@[simp] theorem testsFrom_no_records (ts : List ℕ) : testsFrom criteria ts [] = [] := by
  cases ts <;> rfl

@[simp] theorem passedBy_nil : passedBy criteria [] = [] := rfl

/-- A test is passed by what the criteria of the call leave of the record. -/
theorem passedBy_cons (t : ℕ) (d : Decoded) (tests : List (ℕ × Decoded)) :
    passedBy criteria ((t, d) :: tests) =
      ((criteria t).screen d).toList ++ passedBy criteria tests := by
  cases hd : (criteria t).screen d <;> simp [passedBy, hd]

@[simp] theorem passedBy_append (tests tests' : List (ℕ × Decoded)) :
    passedBy criteria (tests ++ tests') = passedBy criteria tests ++ passedBy criteria tests' :=
  List.filterMap_append

/-- Records are tested in their order, each at most once. -/
theorem testsFrom_eq_take (ts : List ℕ) (ds : List Decoded) :
    (testsFrom criteria ts ds).map Prod.snd = ds.take (testsFrom criteria ts ds).length := by
  fun_induction testsFrom criteria ts ds with
  | case1 => rfl
  | case2 => rfl
  | case3 t ts d ds ih => simpa using ih

/-- Of the records that a call tests at most one passes. -/
theorem length_passedBy_le (ts : List ℕ) (ds : List Decoded) :
    (passedBy criteria (testsFrom criteria ts ds)).length ≤ ts.length := by
  fun_induction testsFrom criteria ts ds with
  | case1 => simp
  | case2 => simp
  | case3 t ts d ds ih =>
    rw [passedBy_cons, List.length_append]
    cases hd : (criteria t).screen d with
    | none => simpa [hd] using ih
    | some kept =>
      -- the next call goes on behind the record that has passed
      simp only [hd, Option.isSome_some, ↓reduceIte] at ih ⊢
      rw [Option.toList_some, List.length_singleton, List.length_cons, Nat.add_comm]
      exact Nat.succ_le_succ ih

/-- If a record has passed at every call, one call more tests what the others left. -/
theorem testsFrom_concat {ts : List ℕ} {ds : List Decoded} (t : ℕ)
    (all : (passedBy criteria (testsFrom criteria ts ds)).length = ts.length) :
    testsFrom criteria (ts ++ [t]) ds = testsFrom criteria ts ds ++
      testsFrom criteria [t] (ds.drop (testsFrom criteria ts ds).length) := by
  fun_induction testsFrom criteria ts ds with
  | case1 => rfl
  | case2 => simp at all
  | case3 s ts d ds ih =>
    rw [List.cons_append, testsFrom, List.cons_append, List.length_cons, List.drop_succ_cons]
    rw [passedBy_cons, List.length_append] at all
    cases hd : (criteria s).screen d with
    | none =>
      simp only [hd, Option.isSome_none, Bool.false_eq_true, ↓reduceIte] at ih all ⊢
      rw [← ih (by simpa using all)]
      rfl
    | some kept =>
      simp only [hd, Option.isSome_some, ↓reduceIte] at ih all ⊢
      rw [Option.toList_some, List.length_singleton, List.length_cons, Nat.add_comm] at all
      rw [← ih (Nat.succ.inj all)]

/-- Records that a call rejects are tested by it, and it goes on behind them. -/
theorem testsFrom_rejected {t : ℕ} {skipped : List Decoded} (ds : List Decoded)
    (rejected : ∀ s ∈ skipped, (criteria t).screen s = none) :
    testsFrom criteria [t] (skipped ++ ds) =
      skipped.map (t, ·) ++ testsFrom criteria [t] ds := by
  induction skipped with
  | nil => rfl
  | cons d skipped ih =>
    rw [List.forall_mem_cons] at rejected
    simp [testsFrom, rejected.1, ih rejected.2]

theorem passedBy_rejected {t : ℕ} {skipped : List Decoded}
    (rejected : ∀ s ∈ skipped, (criteria t).screen s = none) :
    passedBy criteria (skipped.map (t, ·)) = [] := by
  simpa [passedBy] using rejected

/-- What is open after a pull: the record that passes the tests of the call, if one does, and behind
it what is left of the dump. -/
theorem Contents.lane?_eq (x : Contents) (t : ℕ) (chunk : Chunk) (number delivered : ℕ) :
    x.lane? (criteria t) chunk number delivered =
      (passedBy criteria (testsFrom criteria [t] x.records))[0]?.map fun head =>
        ⟨chunk, head, ⟨x.records.drop (testsFrom criteria [t] x.records).length, x.failure?⟩,
          number, delivered⟩ := by
  have yields := yields_pull (criteria t) x
  unfold lane?
  generalize x.pull (criteria t) = p at yields
  cases yields with
  | found split rejected accepted =>
    rename_i skipped rest d kept
    have tests : testsFrom criteria [t] (skipped ++ d :: rest) =
        skipped.map (t, ·) ++ [(t, d)] := by
      simp [testsFrom_rejected _ rejected, testsFrom, accepted]
    have passed : passedBy criteria [(t, d)] = [kept] := by simp [passedBy_cons, accepted]
    have behind : (skipped ++ d :: rest).drop (skipped.length + 1) = rest := by
      simp [List.drop_append]
    rw [split, tests, passedBy_append, passedBy_rejected rejected, passed]
    simp [behind]
  | finished rejected whole =>
    have tests := testsFrom_rejected [] rejected
    rw [List.append_nil] at tests
    simp [tests, passedBy_rejected rejected]
  | failed rejected damaged =>
    have tests := testsFrom_rejected [] rejected
    rw [List.append_nil] at tests
    simp [tests, passedBy_rejected rejected]

/-- If some call found no record, all records have been tested. -/
theorem drop_eq_nil_of_length_passedBy_lt {ts : List ℕ} {ds : List Decoded}
    (fewer : (passedBy criteria (testsFrom criteria ts ds)).length < ts.length) :
    ds.drop (testsFrom criteria ts ds).length = [] := by
  fun_induction testsFrom criteria ts ds with
  | case1 => simp at fewer
  | case2 => rfl
  | case3 t ts d ds ih =>
    rw [List.length_cons, List.drop_succ_cons]
    rw [passedBy_cons, List.length_append] at fewer
    cases hd : (criteria t).screen d with
    | none =>
      -- the same call goes on, so it is still the one that may find no record
      simp only [hd, Option.isSome_none, Bool.false_eq_true, ↓reduceIte] at ih fewer ⊢
      rw [Option.toList_none, List.length_nil, Nat.zero_add] at fewer
      exact ih fewer
    | some kept =>
      simp only [hd, Option.isSome_some, ↓reduceIte] at ih fewer ⊢
      rw [Option.toList_some, List.length_singleton, List.length_cons, Nat.add_comm] at fewer
      exact ih (Nat.lt_of_succ_lt_succ fewer)

/-- A pull that opens no lane finds the failure behind the records, and any other finds none. -/
theorem Contents.error?_eq (c : Criteria) (x : Contents) (chunk : Chunk) (number delivered : ℕ) :
    x.error? c = if (x.lane? c chunk number delivered).isNone then x.failure? else none := by
  cases h : x.lane? c chunk number delivered with
  | none => exact (screened_of_lane?_eq_none h).2
  | some l => exact (pull_of_lane? h).2.2

end RouteFeed
