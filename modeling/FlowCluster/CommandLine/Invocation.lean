import FlowCluster.CommandLine.Scan

/-! # Invocations

A command line that is understood: the settings of the run, how it reports, and what it is to do. The arguments of
the command are completed and checked before those of the program. A variable of the environment gives a value
where the line does not, and unlike the settings that are read from the environment alone, such a value is held to
the same rules as one that is given. -/

namespace FlowCluster.CommandLine

inductive Action
  | resolve (apiKey flow cluster : String) (strict showPassword : Bool)
  | flow (apiKey flow : String)
  | clusters (bucket : String)
  deriving DecidableEq, Repr

/-- A command line that is understood. -/
structure Invocation where
  settings : Settings
  verbose : Bool
  json : Bool
  action : Action
  deriving DecidableEq, Repr

namespace Scope

/-- Takes the value of an argument that was not given from the environment. -/
def fromVariable (s : Scope) (e : Environment) (p : Progress) (a : Argument) : Except Stop Progress :=
  match if p.has a then none else a.fallback.bind fun f => e.bytes? f.source with
  | none => .ok p
  | some b =>
    match Text.Utf8.decode? b with
    | some v => s.proceed (p.accept a v)
    | none => .error (s.complain .notText)

/-- Settles what was given, takes the rest from the environment, and sees that nothing is missing. -/
def complete (s : Scope) (e : Environment) (p : Progress) : Except Stop Progress := do
  let p ← s.arguments.foldlM (s.fromVariable e) (← s.settled p)
  let missing := s.required.filter fun a => !p.has a
  if missing.isEmpty then return p
  else .error (.misuse ⟨.missing missing, s, .these (p.used ++ missing)⟩)

end Scope

namespace Invocation

def settingsOf (p : Progress) : Settings where
  flowHost := p.value .flowHost
  clusterHost := p.value .clusterHost
  masterKey := p.value .masterKey
  scheme := p.value .scheme
  timeout := .ofSeconds ((Text.Count.read (p.value .timeout)).toOption.getD Settings.defaultSeconds)

def actionOf (p : Progress) : Command → Action
  | .resolve =>
    .resolve (p.value .apiKey) (p.value .flow) (p.value .cluster) (p.has .strict) (p.has .showPassword)
  | .flow => .flow (p.value .apiKey) (p.value .flow)
  | .clusters => .clusters (p.value .bucket)

def read (e : Environment) (args : List String) : Except Stop Invocation := do
  let (p, next) ← Scope.top.scan .start args
  match next with
  | some (c, rest) =>
    let scope := Scope.ofCommand c
    let (q, _) ← scope.scan .start rest
    let q ← scope.complete e q
    let p ← Scope.top.complete e p
    return ⟨settingsOf p, p.has .verbose, p.has .json, actionOf q c⟩
  | none =>
    let p ← Scope.top.complete e p
    if p.given.isEmpty then .error .nothing else .error (Scope.top.complain .commandMissing)

end Invocation
end FlowCluster.CommandLine
