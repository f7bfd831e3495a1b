import ThemedCss.Cache

/-!
# Runs of a cache

The requests to a cache as data, so that what it serves can be told from what it was asked before.

* `Cache.Request`, `Cache.Answer`: what a cache is asked, and what it answers;
* `Cache.step`: one request;
* **`Cache.run`**: a list of requests.
-/

namespace ThemedCss.Cache

/-- What a cache is asked. -/
inductive Request (κ : Type)
  | set (key : κ) (css metadata : Text)
  | get (key : κ)
  | metadata (key : κ)
  | has (key : κ)
  | shouldRegenerate (key : κ) (includeStyles : Bool)
  | invalidate (key : κ)
  | clear

/-- What a cache answers. -/
inductive Answer
  | text (t : Option Text)
  | flag (b : Bool)
  | done

variable {κ : Type} [DecidableEq κ]

/-- The cache after one request, and its answer. -/
def step (c : Cache κ) : Request κ → Cache κ × Answer
  | .set key css metadata => (c.set key css metadata, .done)
  | .get key => (c, .text (c.get? key))
  | .metadata key => (c, .text (c.metadata? key))
  | .has key => (c, .flag (c.has key))
  | .shouldRegenerate key includeStyles => (c, .flag (c.shouldRegenerate key includeStyles))
  | .invalidate key => (c.invalidate key, .flag (c.has key))
  | .clear => (c.clear, .done)

/-- The cache after some requests, and their answers. -/
def run (c : Cache κ) : List (Request κ) → Cache κ × List Answer
  | [] => (c, [])
  | request :: requests =>
    let (c, answer) := c.step request
    let (c, answers) := c.run requests
    (c, answer :: answers)

theorem run_append (c : Cache κ) (before after : List (Request κ)) :
    c.run (before ++ after) =
      (((c.run before).1.run after).1, (c.run before).2 ++ ((c.run before).1.run after).2) := by
  induction before generalizing c with
  | nil => simp [run]
  | cons request requests ih => simp [run, ih]

theorem run_concat (c : Cache κ) (requests : List (Request κ)) (request : Request κ) :
    (c.run (requests ++ [request])).1 = ((c.run requests).1.step request).1 := by
  rw [run_append]
  rfl

end ThemedCss.Cache
