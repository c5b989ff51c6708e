/-!
**Secrets in logs.** A secret is shown by at most six of its characters, so that different keys can
be told apart and none can be read.

* `Redacted.redact`: what is shown of an optional secret.
-/

namespace SignedQueue.Redacted

/-- The number of characters below which nothing of a secret is shown. -/
def shortest : Nat := 12

/-- The number of characters shown at each end of a long secret. -/
def shown : Nat := 3

/-- What is shown of an optional secret: whether it is absent or empty, nothing of a short one, and
the two ends of a long one. -/
def redact : Option String → String
  | none => "NONE"
  | some secret =>
    let characters := secret.toList
    if characters.isEmpty then "EMPTY"
    else if characters.length < shortest then "***"
    else
      String.ofList (characters.take shown) ++ "***" ++
        String.ofList (characters.drop (characters.length - shown))

end SignedQueue.Redacted
