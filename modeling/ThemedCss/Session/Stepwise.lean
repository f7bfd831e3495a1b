import ThemedCss.Session.Call
import ThemedCss.Style.Check
import ThemedCss.Variable.Stepwise

/-!
# Calls in steps

A call of a session works in steps. Those of a call for variables write to the registry one variable at
a time, and those of a call for styles compile first and keep the rules then. Each of them may fail, and
nothing is taken back.

* `Effect.onRegistry`: a computation on the registry as one on the session;
* `Stepwise.collectWith`, `Stepwise.createStyle`: the steps of the calls that take data;
* **`Stepwise.perform`**, `Session.perform`: those of every call;
* `Session.performAll`: a list of calls up to the first one that fails.
-/

namespace ThemedCss

/-- A computation on the registry of a session. -/
def Effect.onRegistry {α : Type} (x : Effect Registry α) : Effect Session α := fun s =>
  match x s.registry with
  | .ok a r => .ok a { s with registry := r }
  | .error fault r => .error fault { s with registry := r }

namespace Stepwise

/-- The variables of a tree are collected, and its references are answered. -/
def collectWith (o : CollectOptions) (values name : Value) : Effect Session Reply := do
  let references ← Effect.onRegistry (collect o name values)
  return .references (.level references)

/-- The style tree is found and compiled, and its rules are kept if there are any. -/
def createStyle (subject : Subject) (styles : Option Style) : Effect Session Reply := do
  match ← MonadExcept.ofExcept (Session.effectiveStyle subject styles) with
  | none => return .style (.rules [])
  | some style => do
    let css ← MonadExcept.ofExcept (style.compileChecked (← get).styleOptions [])
    if css = [] then pure () else modify fun s => { s with chunks := s.chunks ++ [css] }
    return .style style

/-- The steps of a call. Calls that take no data have one step, which does not fail. -/
def perform : Call → Effect Session Reply
  | .createTheme values name => collectWith ⟨true, .scope⟩ values name
  | .createVars values name => do collectWith ⟨false, (← get).config.varsThemeKeys⟩ values name
  | .createStyle subject styles => createStyle subject styles
  | .generateStyles => return .text (← get).generateStyles
  | .optimize => modifyGet fun s => (.names s.optimize.2, s.optimize.1)
  | .css includeStyles key => modifyGet fun s =>
    (.text (s.css includeStyles key).2, (s.css includeStyles key).1)
  | .reset => do modify Session.reset; return .done
  | .clearCache => do modify Session.clearCache; return .done

end Stepwise

namespace Session

/-- The session after the steps of a call, as far as they went, and its answer. -/
def perform (s : Session) (call : Call) : Session × Except Fault Reply :=
  match Stepwise.perform call s with
  | .ok reply s => (s, .ok reply)
  | .error f s => (s, .error f)

/-- The session after the steps of some calls, up to the first step that fails. -/
def performAll (s : Session) : List Call → Session × Except Fault Unit
  | [] => (s, .ok ())
  | call :: calls =>
    match s.perform call with
    | (s, .ok _) => s.performAll calls
    | (s, .error f) => (s, .error f)

end Session

end ThemedCss
