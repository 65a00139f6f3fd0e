import Scaffold.Recipe.Basic
/-!
# The authentication generator

The generator of user authentication. Its templates hold a registration form, into which each
attribute of the user adds an input, and a migration; its payload registers the routes and the
middleware in the setup file of the application.
-/

namespace Scaffold.Recipe

namespace Auth

def formPath : String := "templates/users/new.html"

def formMarker : String := "<%= f.InputTag(\"PasswordConfirmation\""

def formRow (a : Attribute) : String :=
  "      <%= f.InputTag(\"" ++ a.displayName ++ "\", \x7b\x7d) %>"

def setupPath : String := "actions/app.go"

def currentAnchor : Patch.Anchor := ⟨"appOnce.Do(func() \x7b", none⟩

/-- The line that old applications are set up after. -/
def legacyAnchor : Patch.Anchor :=
  ⟨"if app == nil \x7b",
    some "built with CLI v0.18.8 or older; consider migrating App() to appOnce"⟩

def setupLines : List String :=
  [
    "// AuthMiddleware",
    "s := MockSender\x7b\x7d",
    "app.Use(SetupRecoverySender(s))",
    "app.Use(SetCurrentUser)",
    "// STITCH-AUTH: enable to use across all routes",
    "// WARNING: in default configuration, no routes are protected by auth.",
    "// app.Use(Authorize)",
    "",
    "// Routes for Auth",
    "auth := app.Group(\"/login\")",
    "auth.GET(\"/new\", AuthNew)",
    "auth.POST(\"/\", AuthCreate)",
    "auth.DELETE(\"/\", AuthDestroy)",
    "",
    "// Password recovery",
    "app.GET(\"/password_reset\", PasswordResetForm)",
    "app.POST(\"/password_reset\", PasswordReset)",
    "app.GET(\"/account_recovery\", AccountRecoveryForm)",
    "app.POST(\"/account_recovery\", AccountRecovery)",
    "// enable SKIP if using Authorize on these routes.",
    "// auth.Middleware.Skip(Authorize, AuthLanding, AuthNew, AuthCreate, PasswordResetForm, PasswordReset, AccountRecoveryForm, AccountRecovery)",
    "",
    "// Routes for User registration",
    "users := app.Group(\"/users\")",
    "users.GET(\"/new\", UsersNew)",
    "users.POST(\"/\", UsersCreate)",
    "// enable REMOVE if Authorize is in use.",
    "// users.Middleware.Remove(Authorize)",
    ""]

def setupPatch : Patch.Request where
  target := setupPath
  primary := currentAnchor
  fallbacks := [legacyAnchor]
  payload := setupLines
  indent := Patch.defaultIndent

def defaultMigrations : String := "migrations"

end Auth

/-- The recipe of the authentication generator; migrations go to the given directory. -/
def auth (migrations : String) : Recipe where
  name := "auth"
  injection := some ⟨Auth.formPath, Auth.formMarker, Auth.formRow⟩
  renames := [(".html", ".plush.html")]
  move := some ⟨".fizz", migrations⟩
  patch := Auth.setupPatch

end Scaffold.Recipe
