import RootCause.Context.Basic

/-!
Partial contexts that steps return, and the two ways to apply one in place: to a context and to
another delta.

Filters and path are appended, metrics overwritten by name, scratch replaced as a whole and
breakdowns appended under each key. Meta is never accepted.
-/

namespace RootCause

/-- A fragment of a context. An absent field leaves that part of the context as it is. -/
structure Delta where
  runMeta : Option RunMeta := none
  filters : Option (List Filter) := none
  metrics : Option Metrics := none
  rootCausePath : Option (List Json) := none
  scratch : Option (Dict Json) := none
  breakdowns : Option Breakdowns := none

/-- Why a delta is rejected. -/
inductive MergeError where
  | immutableMeta
deriving DecidableEq

def MergeError.message : MergeError → String
  | .immutableMeta => "meta is immutable and cannot be merged"

/-- Appends each list to the one under its key. -/
def Breakdowns.append (a b : Breakdowns) : Breakdowns :=
  b.entries.foldl (fun d e => d.insert e.1 ((d.get? e.1).getD [] ++ e.2)) a

/-- Overwrites the metrics of the same names. -/
def Metrics.override (a b : Metrics) : Metrics := a.insertAll b.entries

/-- A change in place, which can be rejected. The state that it leaves is there either way. -/
abbrev Update (σ : Type) := ExceptT MergeError (StateM σ)

namespace Update

/-- Changes the state by a part that is given. -/
def whenGiven {σ α : Type} (part : Option α) (change : α → σ → σ) : Update σ Unit :=
  match part with
  | none => pure ()
  | some x => modify (change x)

/-- The changed state, none after a rejection. -/
def result {σ : Type} (u : Update σ Unit) (s : σ) : Except MergeError σ :=
  match u s with
  | (.ok (), after) => .ok after
  | (.error e, _) => .error e

end Update

namespace Delta

open Update (whenGiven)

def empty : Delta := {}

def ofMetrics (ms : Metrics) : Delta := { metrics := some ms }

def ofScratch (scratch : Dict Json) : Delta := { scratch := some scratch }

def isEmpty (d : Delta) : Bool :=
  d.runMeta.isNone && d.filters.isNone && d.metrics.isNone && d.rootCausePath.isNone &&
    d.scratch.isNone && d.breakdowns.isNone

/-- Applies a delta to a context, one part after another. -/
def mergeInto (d : Delta) : Update Context Unit := do
  if d.runMeta.isSome then throw .immutableMeta
  whenGiven d.filters fun fs c => { c with filters := c.filters ++ fs }
  whenGiven d.metrics fun ms c => { c with metrics := c.metrics.override ms }
  whenGiven d.rootCausePath fun path c => { c with rootCausePath := c.rootCausePath ++ path }
  whenGiven d.scratch fun scratch c => { c with scratch }
  whenGiven d.breakdowns fun bs c => { c with breakdowns := c.breakdowns.append bs }

/-- Applies a delta to another one, which then does what both do one after the other. A part that
is not there yet starts empty. -/
def absorbInto (d : Delta) : Update Delta Unit := do
  if d.runMeta.isSome then throw .immutableMeta
  whenGiven d.filters fun fs acc => { acc with filters := some (acc.filters.getD [] ++ fs) }
  whenGiven d.metrics fun ms acc =>
    { acc with metrics := some ((acc.metrics.getD ∅).override ms) }
  whenGiven d.rootCausePath fun path acc =>
    { acc with rootCausePath := some (acc.rootCausePath.getD [] ++ path) }
  whenGiven d.scratch fun scratch acc => { acc with scratch := some scratch }
  whenGiven d.breakdowns fun bs acc =>
    { acc with breakdowns := some ((acc.breakdowns.getD ∅).append bs) }

def shape : Shape := .plain
  ["meta", "filters", "metrics", "rootCausePath", "scratch", "breakdowns"] 0

def ofJson? (j : Json) : Option Delta := do
  let r ← j.record? shape
  return {
    runMeta := ← r.optional "meta" RunMeta.ofJson?
    filters := ← r.optional "filters" (Json.toList? Filter.ofJson?)
    metrics := ← r.optional "metrics" (Json.toDict? MetricValue.ofJson?)
    rootCausePath := ← r.optional "rootCausePath" (Json.toList? Json.toValue?)
    scratch := ← r.optional "scratch" (Json.toDict? Json.toValue?)
    breakdowns := ← r.optional "breakdowns" Breakdowns.ofJson? }

def toJson (d : Delta) : Json := .object (
  Json.memberIfSome "breakdowns" Breakdowns.toJson d.breakdowns ++
  Json.memberIfSome "filters" (fun fs => .array (fs.map Filter.toJson)) d.filters ++
  Json.memberIfSome "meta" RunMeta.toJson d.runMeta ++
  Json.memberIfSome "metrics" (.ofDict MetricValue.toJson) d.metrics ++
  Json.memberIfSome "rootCausePath" .array d.rootCausePath ++
  Json.memberIfSome "scratch" (.ofDict id) d.scratch)

end Delta

/-- The context after a delta. -/
def Context.merge (c : Context) (d : Delta) : Except MergeError Context := d.mergeInto.result c

/-- The context after a delta that may be absent. -/
def Context.merge? (c : Context) : Option Delta → Except MergeError Context
  | none => .ok c
  | some d => c.merge d

end RootCause
