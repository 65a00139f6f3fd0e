/-!
# Bundled actions

The actions of the authentication generator: login, password recovery and registration.
-/

namespace Scaffold.Bundled

def login : List String :=
  [
    "package actions",
    "",
    "import (",
    "\t\"database/sql\"",
    "\t\"net/http\"",
    "\t\"strings\"",
    "",
    "\t\"\x7b\x7b app.module_path \x7d\x7d/models\"",
    "",
    "\t\"github.com/gobuffalo/buffalo\"",
    "\t\"github.com/gobuffalo/pop/v6\"",
    "\t\"github.com/gobuffalo/validate/v3\"",
    "\t\"github.com/pkg/errors\"",
    "\t\"golang.org/x/crypto/bcrypt\"",
    ")",
    "",
    "// AuthLanding shows a landing page to login",
    "func AuthLanding(c buffalo.Context) error \x7b",
    "\treturn c.Render(http.StatusOK, r.HTML(\"auth/landing.plush.html\"))",
    "\x7d",
    "",
    "// AuthNew loads the signin page",
    "func AuthNew(c buffalo.Context) error \x7b",
    "\tc.Set(\"user\", models.User\x7b\x7d)",
    "\treturn c.Render(http.StatusOK, r.HTML(\"auth/new.plush.html\"))",
    "\x7d",
    "",
    "// AuthCreate attempts to log the user in with an existing account.",
    "func AuthCreate(c buffalo.Context) error \x7b",
    "\tu := &models.User\x7b\x7d",
    "\tif err := c.Bind(u); err != nil \x7b",
    "\t\treturn errors.WithStack(err)",
    "\t\x7d",
    "",
    "\ttx := c.Value(\"tx\").(*pop.Connection)",
    "",
    "\t// find a user with the email",
    "\terr := tx.Where(\"email = ?\", strings.ToLower(strings.TrimSpace(u.Email))).First(u)",
    "",
    "\t// helper function to handle bad attempts",
    "\tbad := func() error \x7b",
    "\t\tverrs := validate.NewErrors()",
    "\t\tverrs.Add(\"email\", \"invalid email/password\")",
    "",
    "\t\tc.Set(\"errors\", verrs)",
    "\t\tc.Set(\"user\", u)",
    "",
    "\t\treturn c.Render(http.StatusUnauthorized, r.HTML(\"auth/new.plush.html\"))",
    "\t\x7d",
    "",
    "\tif err != nil \x7b",
    "\t\tif errors.Cause(err) == sql.ErrNoRows \x7b",
    "\t\t\t// couldn't find an user with the supplied email address.",
    "\t\t\treturn bad()",
    "\t\t\x7d",
    "\t\treturn errors.WithStack(err)",
    "\t\x7d",
    "",
    "\t// confirm that the given password matches the hashed password from the db",
    "\terr = bcrypt.CompareHashAndPassword([]byte(u.PasswordHash), []byte(u.Password))",
    "\tif err != nil \x7b",
    "\t\treturn bad()",
    "\t\x7d",
    "\tc.Session().Set(\"current_user_id\", u.ID)",
    "\tc.Flash().Add(\"success\", \"Welcome back!\")",
    "",
    "\tredirectURL := \"/\"",
    "\tif redir, ok := c.Session().Get(\"redirectURL\").(string); ok && redir != \"\" \x7b",
    "\t\tredirectURL = redir",
    "\t\x7d",
    "",
    "\treturn c.Redirect(http.StatusFound, redirectURL)",
    "\x7d",
    "",
    "// AuthDestroy clears the session and logs a user out",
    "func AuthDestroy(c buffalo.Context) error \x7b",
    "\tc.Session().Clear()",
    "\tc.Flash().Add(\"success\", \"You have been logged out!\")",
    "\treturn c.Redirect(http.StatusFound, \"/\")",
    "\x7d"]

def recovery : List String :=
  [
    "package actions",
    "",
    "import (",
    "\t\"fmt\"",
    "\t\"net/http\"",
    "\t\"strings\"",
    "\t\"time\"",
    "",
    "\t\"\x7b\x7b app.module_path \x7d\x7d/models\"",
    "",
    "\t\"github.com/gobuffalo/buffalo\"",
    "\t\"github.com/gobuffalo/nulls\"",
    "\t\"github.com/gobuffalo/pop/v6\"",
    "\t\"github.com/gofrs/uuid\"",
    "\t\"github.com/pkg/errors\"",
    ")",
    "",
    "// RecoverySender delivers account recovery links.",
    "type RecoverySender interface \x7b",
    "\tSend(to string, link string) error",
    "\x7d",
    "",
    "// MockSender logs recovery links instead of sending them.",
    "// Replace it with a real mailer before going to production.",
    "type MockSender struct\x7b\x7d",
    "",
    "// Send implements RecoverySender.",
    "func (MockSender) Send(to string, link string) error \x7b",
    "\tfmt.Printf(\"account recovery for %s: %s\\n\", to, link)",
    "\treturn nil",
    "\x7d",
    "",
    "// SetupRecoverySender makes the sender available to the recovery actions.",
    "func SetupRecoverySender(s RecoverySender) buffalo.MiddlewareFunc \x7b",
    "\treturn func(next buffalo.Handler) buffalo.Handler \x7b",
    "\t\treturn func(c buffalo.Context) error \x7b",
    "\t\t\tc.Set(\"recovery_sender\", s)",
    "\t\t\treturn next(c)",
    "\t\t\x7d",
    "\t\x7d",
    "\x7d",
    "",
    "// PasswordResetForm renders the \"forgot password\" form.",
    "func PasswordResetForm(c buffalo.Context) error \x7b",
    "\tc.Set(\"user\", models.User\x7b\x7d)",
    "\treturn c.Render(http.StatusOK, r.HTML(\"auth/password_reset.plush.html\"))",
    "\x7d",
    "",
    "// PasswordReset issues a recovery code and sends the recovery link.",
    "func PasswordReset(c buffalo.Context) error \x7b",
    "\tu := &models.User\x7b\x7d",
    "\tif err := c.Bind(u); err != nil \x7b",
    "\t\treturn errors.WithStack(err)",
    "\t\x7d",
    "",
    "\ttx := c.Value(\"tx\").(*pop.Connection)",
    "\temail := strings.ToLower(strings.TrimSpace(u.Email))",
    "\tif err := tx.Where(\"email = ?\", email).First(u); err == nil \x7b",
    "\t\tcode, err := uuid.NewV4()",
    "\t\tif err != nil \x7b",
    "\t\t\treturn errors.WithStack(err)",
    "\t\t\x7d",
    "\t\tu.RecoveryCode = nulls.NewUUID(code)",
    "\t\tu.RecoveryExpiration = nulls.NewTime(time.Now().Add(time.Hour))",
    "\t\tif err := tx.Update(u); err != nil \x7b",
    "\t\t\treturn errors.WithStack(err)",
    "\t\t\x7d",
    "",
    "\t\ts, ok := c.Value(\"recovery_sender\").(RecoverySender)",
    "\t\tif !ok \x7b",
    "\t\t\treturn errors.New(\"recovery sender is not configured\")",
    "\t\t\x7d",
    "\t\tlink := fmt.Sprintf(\"%s/account_recovery?code=%s\", c.Request().Host, code)",
    "\t\tif err := s.Send(u.Email, link); err != nil \x7b",
    "\t\t\treturn errors.WithStack(err)",
    "\t\t\x7d",
    "\t\x7d",
    "",
    "\t// Same answer whether or not the account exists.",
    "\tc.Flash().Add(\"success\", \"If the account exists, a recovery link is on its way.\")",
    "\treturn c.Redirect(http.StatusFound, \"/\")",
    "\x7d",
    "",
    "// AccountRecoveryForm renders the \"choose a new password\" form.",
    "func AccountRecoveryForm(c buffalo.Context) error \x7b",
    "\tc.Set(\"code\", c.Param(\"code\"))",
    "\tc.Set(\"user\", models.User\x7b\x7d)",
    "\treturn c.Render(http.StatusOK, r.HTML(\"auth/account_recovery.plush.html\"))",
    "\x7d",
    "",
    "// AccountRecovery sets a new password for a valid, unexpired recovery code.",
    "func AccountRecovery(c buffalo.Context) error \x7b",
    "\tform := &models.User\x7b\x7d",
    "\tif err := c.Bind(form); err != nil \x7b",
    "\t\treturn errors.WithStack(err)",
    "\t\x7d",
    "",
    "\ttx := c.Value(\"tx\").(*pop.Connection)",
    "\tu := &models.User\x7b\x7d",
    "\tif err := tx.Where(\"recovery_code = ?\", c.Param(\"code\")).First(u); err != nil \x7b",
    "\t\tc.Flash().Add(\"danger\", \"This recovery link is invalid.\")",
    "\t\treturn c.Redirect(http.StatusFound, \"/password_reset\")",
    "\t\x7d",
    "\tif !u.RecoveryExpiration.Valid || time.Now().After(u.RecoveryExpiration.Time) \x7b",
    "\t\tc.Flash().Add(\"danger\", \"This recovery link has expired.\")",
    "\t\treturn c.Redirect(http.StatusFound, \"/password_reset\")",
    "\t\x7d",
    "",
    "\tu.Password = form.Password",
    "\tu.PasswordConfirmation = form.PasswordConfirmation",
    "\tu.RecoveryCode = nulls.UUID\x7b\x7d",
    "\tu.RecoveryExpiration = nulls.Time\x7b\x7d",
    "\tverrs, err := u.UpdatePassword(tx)",
    "\tif err != nil \x7b",
    "\t\treturn errors.WithStack(err)",
    "\t\x7d",
    "\tif verrs.HasAny() \x7b",
    "\t\tc.Set(\"code\", c.Param(\"code\"))",
    "\t\tc.Set(\"user\", u)",
    "\t\tc.Set(\"errors\", verrs)",
    "\t\treturn c.Render(http.StatusOK, r.HTML(\"auth/account_recovery.plush.html\"))",
    "\t\x7d",
    "",
    "\tc.Flash().Add(\"success\", \"Your password has been changed.\")",
    "\treturn c.Redirect(http.StatusFound, \"/login/new\")",
    "\x7d"]

def registration : List String :=
  [
    "package actions",
    "",
    "import (",
    "\t\"net/http\"",
    "",
    "\t\"\x7b\x7b app.module_path \x7d\x7d/models\"",
    "",
    "\t\"github.com/gobuffalo/buffalo\"",
    "\t\"github.com/gobuffalo/pop/v6\"",
    "\t\"github.com/pkg/errors\"",
    ")",
    "",
    "// UsersNew renders the users form",
    "func UsersNew(c buffalo.Context) error \x7b",
    "\tu := models.User\x7b\x7d",
    "\tc.Set(\"user\", u)",
    "\treturn c.Render(http.StatusOK, r.HTML(\"users/new.plush.html\"))",
    "\x7d",
    "",
    "// UsersCreate registers a new user with the application.",
    "func UsersCreate(c buffalo.Context) error \x7b",
    "\tu := &models.User\x7b\x7d",
    "\tif err := c.Bind(u); err != nil \x7b",
    "\t\treturn errors.WithStack(err)",
    "\t\x7d",
    "",
    "\ttx := c.Value(\"tx\").(*pop.Connection)",
    "\tverrs, err := u.Create(tx)",
    "\tif err != nil \x7b",
    "\t\treturn errors.WithStack(err)",
    "\t\x7d",
    "",
    "\tif verrs.HasAny() \x7b",
    "\t\tc.Set(\"user\", u)",
    "\t\tc.Set(\"errors\", verrs)",
    "\t\treturn c.Render(http.StatusOK, r.HTML(\"users/new.plush.html\"))",
    "\t\x7d",
    "",
    "\tc.Session().Set(\"current_user_id\", u.ID)",
    "\tc.Flash().Add(\"success\", \"Welcome!\")",
    "",
    "\treturn c.Redirect(http.StatusFound, \"/\")",
    "\x7d",
    "",
    "// SetCurrentUser attempts to find a user based on the current_user_id",
    "// in the session. If one is found it is set on the context.",
    "func SetCurrentUser(next buffalo.Handler) buffalo.Handler \x7b",
    "\treturn func(c buffalo.Context) error \x7b",
    "\t\tif uid := c.Session().Get(\"current_user_id\"); uid != nil \x7b",
    "\t\t\tu := &models.User\x7b\x7d",
    "\t\t\ttx := c.Value(\"tx\").(*pop.Connection)",
    "\t\t\terr := tx.Find(u, uid)",
    "\t\t\tif err != nil \x7b",
    "\t\t\t\treturn errors.WithStack(err)",
    "\t\t\t\x7d",
    "\t\t\tc.Set(\"current_user\", u)",
    "\t\t\x7d",
    "\t\treturn next(c)",
    "\t\x7d",
    "\x7d",
    "",
    "// Authorize require a user be logged in before accessing a route",
    "func Authorize(next buffalo.Handler) buffalo.Handler \x7b",
    "\treturn func(c buffalo.Context) error \x7b",
    "\t\tif uid := c.Session().Get(\"current_user_id\"); uid == nil \x7b",
    "\t\t\tc.Session().Set(\"redirectURL\", c.Request().URL.String())",
    "",
    "\t\t\terr := c.Session().Save()",
    "\t\t\tif err != nil \x7b",
    "\t\t\t\treturn errors.WithStack(err)",
    "\t\t\t\x7d",
    "",
    "\t\t\tc.Flash().Add(\"danger\", \"You must be authorized to see that page\")",
    "\t\t\treturn c.Redirect(http.StatusFound, \"/login/new\")",
    "\t\t\x7d",
    "\t\treturn next(c)",
    "\t\x7d",
    "\x7d"]

end Scaffold.Bundled
