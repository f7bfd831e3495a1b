import ThemedCss.Session

/-!
# Runs of a session

The calls of a session as data, so that runs can be compared.

* `Call`, `Reply`: what a session is asked, and what it answers;
* `Session.step`: one call; a failed one leaves the session as it was;
* **`Session.run`**: a list of calls, which goes on behind a failed one;
* `Session.replay`: a list of calls up to the first one that fails.
-/

namespace ThemedCss

/-- A call of a session. -/
inductive Call
  | createTheme (values name : Value)
  | createVars (values name : Value)
  | createStyle (subject : Subject) (styles : Option Style)
  | generateStyles
  | optimize
  | css (includeStyles : Bool) (key : Option Scalar)
  | reset
  | clearCache

/-- What a call answers. -/
inductive Reply
  | references (m : ReferenceTree)
  | style (s : Style)
  | text (t : Text)
  | names (ns : List Text)
  | done

namespace Session

/-- The session after a call that may fail, with the answer. -/
def after {α : Type} (s : Session) (reply : α → Reply) :
    Except Fault (Session × α) → Session × Except Fault Reply
  | .ok (s', a) => (s', .ok (reply a))
  | .error f => (s, .error f)

/-- The session after one call, and its answer. -/
def step (s : Session) : Call → Session × Except Fault Reply
  | .createTheme values name => s.after .references (s.createTheme values name)
  | .createVars values name => s.after .references (s.createVars values name)
  | .createStyle subject styles => s.after .style (s.createStyle subject styles)
  | .generateStyles => (s, .ok (.text s.generateStyles))
  | .optimize => let (s', names) := s.optimize; (s', .ok (.names names))
  | .css includeStyles key => let (s', css) := s.css includeStyles key; (s', .ok (.text css))
  | .reset => (s.reset, .ok .done)
  | .clearCache => (s.clearCache, .ok .done)

/-- The session after some calls, and their answers. -/
def run (s : Session) : List Call → Session × List (Except Fault Reply)
  | [] => (s, [])
  | call :: calls =>
    let (s, reply) := s.step call
    let (s, replies) := s.run calls
    (s, reply :: replies)

/-- The session after some calls, or after those before the first one that fails. -/
def replay (s : Session) : List Call → Session × Except Fault Unit
  | [] => (s, .ok ())
  | call :: calls =>
    match s.step call with
    | (s, .ok _) => s.replay calls
    | (s, .error f) => (s, .error f)

theorem run_append (s : Session) (before after : List Call) :
    s.run (before ++ after) =
      (((s.run before).1.run after).1, (s.run before).2 ++ ((s.run before).1.run after).2) := by
  induction before generalizing s with
  | nil => simp [run]
  | cons call calls ih => simp [run, ih]

end Session

end ThemedCss
