import LogIntake.Text.Quoted

/-!
# Credentials

* `Credentials`: a user with a secret.
* `Credentials.describe`: a description that can be shown, since it leaves the secret out.
-/

namespace LogIntake

/-- A user and the secret that proves it. -/
structure Credentials where
  user : String
  secret : String
deriving DecidableEq, Repr

/-- The credentials with the secret left out. -/
def Credentials.describe (c : Credentials) : String :=
  "Credentials \x7b username: " ++ Text.quote c.user ++ ", secret: \"[REDACTED]\" \x7d"

/-- The description does not depend on the secret. -/
theorem Credentials.describe_eq (user secret other : String) :
    describe ⟨user, secret⟩ = describe ⟨user, other⟩ := rfl

end LogIntake
