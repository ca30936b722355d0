import RunFilter.Proofs.Regex.Engine
import RunFilter.Regex.Memo

/-!
# A memory nobody notices

A statement searches at every row, so the last expression is remembered and its source is read once
for all rows. The entry is taken out of the memory before a new source is read, and that may fail.

What the memory relies on is little: a source is compiled or refused, and an expression knows the
source that it was compiled from (`Engine`). The invariant is `Engine.Kept`: what is remembered is
what its own source compiles to. It makes a hit as good as a new reading, and `Engine.call_eq` says
what one search does: it answers as a search without memory does and remembers what this one source
compiles to, whatever was remembered before.

**The law** (`searches_eq_map_search`): call after call, with any expressions and any texts, the
answers are those of searches without memory, errors included. After each call the memory holds
what its source compiles to, so nothing after an error.
-/

set_option autoImplicit false

namespace RunFilter.Regex

namespace Engine

variable {Expression Failure : Type} (engine : Engine Expression Failure)

/-- The expression of a source: the remembered one if it has that source. -/
def remembered (memory : Option Expression) (source : String) : Except Failure Expression :=
  match memory with
  | some expression =>
    if engine.source expression = source then .ok expression else engine.compile source
  | none => engine.compile source

/-- **One search with a memory**, and the memory after it. -/
def call (memory : Option Expression) (source text : String) :
    Except Failure Bool × Option Expression :=
  match engine.remembered memory source with
  | .ok expression => (.ok (engine.isFoundIn expression text), some expression)
  | .error failure => (.error failure, none)

/-- **Search after search**, each with the memory that the one before left. -/
def calls (memory : Option Expression) :
    List (String × String) → List (Except Failure Bool) × Option Expression
  | [] => ([], memory)
  | (source, text) :: rest =>
    let (answer, memory) := engine.call memory source text
    let (answers, memory) := calls memory rest
    (answer :: answers, memory)

/-- **What is remembered is what its own source compiles to.** -/
def Kept (memory : Option Expression) : Prop :=
  ∀ expression ∈ memory, engine.compile (engine.source expression) = .ok expression

variable {engine} {memory : Option Expression}

theorem kept_none : engine.Kept none := by simp [Kept]

theorem kept_compile (source : String) : engine.Kept (engine.compile source).toOption := by
  intro expression mem
  cases compiled : engine.compile source with
  | error failure => simp [compiled, Except.toOption] at mem
  | ok read =>
    obtain rfl : read = expression := by simpa [compiled, Except.toOption] using mem
    rw [engine.source_of_compile compiled, compiled]

/-- A hit is what a new reading gives. -/
theorem remembered_eq (kept : engine.Kept memory) (source : String) :
    engine.remembered memory source = engine.compile source := by
  cases memory with
  | none => rfl
  | some expression =>
    rw [remembered]
    split
    case isTrue hit => rw [← hit, kept expression rfl]
    case isFalse => rfl

/-- **One search**: answer and memory depend on its own source and text only. -/
theorem call_eq (kept : engine.Kept memory) (source text : String) :
    engine.call memory source text =
      (engine.search source text, (engine.compile source).toOption) := by
  rw [call, remembered_eq kept, search]
  cases engine.compile source with
  | error failure => rfl
  | ok expression => rfl

/-- **Search after search**: each finds a memory that is kept and leaves one. -/
theorem calls_fst (kept : engine.Kept memory) (calls : List (String × String)) :
    (engine.calls memory calls).1 = calls.map fun call => engine.search call.1 call.2 := by
  -- the memory is general: each call leaves another one, and all are kept
  induction calls generalizing memory with
  | nil => rfl
  | cons call rest ih =>
    have next := ih (kept_compile call.1)
    simp only [Engine.calls, call_eq kept, List.map_cons, next]

/-- The memory in the end is that of the last call alone. -/
theorem calls_snd (kept : engine.Kept memory) (calls : List (String × String))
    (source text : String) :
    (engine.calls memory (calls ++ [(source, text)])).2 = (engine.compile source).toOption := by
  induction calls generalizing memory with
  | nil => simp only [List.nil_append, Engine.calls, call_eq kept]
  | cons call rest ih =>
    have next := ih (kept_compile call.1)
    simp only [List.cons_append, Engine.calls, call_eq kept, next]

end Engine

namespace Memo

/-- **Search after search**, each with the memory that the one before left. -/
def searches (memo : Memo) : List (String × String) → List (Option Bool) × Memo
  | [] => ([], memo)
  | (source, text) :: rest =>
    let (answer, memo) := memo.search? source text
    let (answers, memo) := memo.searches rest
    (answer :: answers, memo)

theorem toOption_remembered (memo : Memo) (source : String) :
    (engine.remembered memo.last source).toOption = memo.regex? source := by
  rw [regex?]
  cases memo.last with
  | none => exact toOption_compile source
  | some regex =>
    by_cases hit : regex.source = source
    · simp [Engine.remembered, engine, hit, Except.toOption]
    · simpa [Engine.remembered, engine, hit] using toOption_compile source

/-- **One search with the memory is a call of the engine.** -/
theorem search?_eq_call (memo : Memo) (source text : String) :
    memo.search? source text =
      ((engine.call memo.last source text).1.toOption,
        ⟨(engine.call memo.last source text).2⟩) := by
  rw [search?, Engine.call, ← toOption_remembered]
  cases engine.remembered memo.last source <;> rfl

theorem searches_eq_calls (memo : Memo) (calls : List (String × String)) :
    memo.searches calls =
      ((engine.calls memo.last calls).1.map Except.toOption,
        ⟨(engine.calls memo.last calls).2⟩) := by
  induction calls generalizing memo with
  | nil => rfl
  | cons call rest ih => simp only [searches, search?_eq_call, ih, Engine.calls, List.map_cons]

end Memo

/-- **The memory is not noticed**: from an empty memory, any calls in any order are answered as
searches without memory answer them, with any library of regular expressions and with the one of
filters. What is remembered in the end is what the last source compiles to, if it does. -/
theorem searches_eq_map_search :
    (∀ {Expression Failure : Type} (engine : Engine Expression Failure)
        (calls : List (String × String)) (source text : String),
      (engine.calls none calls).1 = calls.map (fun call => engine.search call.1 call.2) ∧
      (engine.calls none (calls ++ [(source, text)])).2 = (engine.compile source).toOption) ∧
    ∀ (calls : List (String × String)) (source text : String),
      (Memo.searches {} calls).1 = calls.map (fun call => search? call.1 call.2) ∧
      (Memo.searches {} (calls ++ [(source, text)])).2 = ⟨ofString? source⟩ := by
  refine ⟨fun engine calls source text => ?_, fun calls source text => ?_⟩
  · exact ⟨Engine.calls_fst Engine.kept_none calls,
      Engine.calls_snd Engine.kept_none calls source text⟩
  · rw [Memo.searches_eq_calls, Memo.searches_eq_calls, Engine.calls_fst Engine.kept_none,
      Engine.calls_snd Engine.kept_none, toOption_compile, List.map_map]
    refine ⟨List.map_congr_left fun call _ => ?_, rfl⟩
    exact toOption_search call.1 call.2

/-- A refused source between two searches for one expression. -/
example : (Memo.searches {} [("^tr", "train"), ("(", "train"), ("^tr", "val"), ("al$", "val")]).1 =
    [some true, none, some false, some true] := by decide +kernel

end RunFilter.Regex
