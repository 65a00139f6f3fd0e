/-!
# The bundled user model

The user model and the migration that creates its table. Both go through the attributes of the
run.
-/

namespace Scaffold.Bundled

def migration : List String :=
  [
    "create_table(\"users\") \x7b",
    "\tt.Column(\"id\", \"uuid\", \x7bprimary: true\x7d)",
    "\tt.Column(\"email\", \"string\", \x7b\x7d)",
    "\tt.Column(\"password_hash\", \"string\", \x7b\x7d)",
    "\tt.Column(\"recovery_code\", \"uuid\", \x7b\"null\": true\x7d)",
    "\tt.Column(\"recovery_expiration\", \"timestamp\", \x7b\"null\": true\x7d)",
    "\x7b%- for a in attrs %\x7d",
    "\tt.Column(\"\x7b\x7b a.normalized \x7d\x7d\", \"\x7b\x7b a.column_type \x7d\x7d\", \x7b \x7b\x7b- option(a) -\x7d\x7d \x7d)",
    "\x7b%- endfor %\x7d",
    "\tt.Timestamps()",
    "\x7d",
    "",
    "add_index(\"users\", \"email\", \x7b\"unique\": true\x7d)"]

def model : List String :=
  [
    "package models",
    "",
    "import (",
    "\t\"encoding/json\"",
    "\t\"strings\"",
    "\t\"time\"",
    "",
    "\t\"github.com/gobuffalo/nulls\"",
    "\t\"github.com/gobuffalo/pop/v6\"",
    "\t\"github.com/gobuffalo/validate/v3\"",
    "\t\"github.com/gobuffalo/validate/v3/validators\"",
    "\t\"github.com/gofrs/uuid\"",
    "\t\"github.com/pkg/errors\"",
    "\t\"golang.org/x/crypto/bcrypt\"",
    ")",
    "",
    "// User is a generated model type",
    "type User struct \x7b",
    "\tID                 uuid.UUID  `json:\"id\" db:\"id\"`",
    "\tCreatedAt          time.Time  `json:\"created_at\" db:\"created_at\"`",
    "\tUpdatedAt          time.Time  `json:\"updated_at\" db:\"updated_at\"`",
    "\tEmail              string     `json:\"email\" db:\"email\"`",
    "\tPasswordHash       string     `json:\"password_hash\" db:\"password_hash\"`",
    "\tRecoveryCode       nulls.UUID `json:\"-\" db:\"recovery_code\"`",
    "\tRecoveryExpiration nulls.Time `json:\"-\" db:\"recovery_expiration\"`",
    "\x7b%- for a in attrs %\x7d",
    "\t\x7b\x7b a.display_name \x7d\x7d \x7b\x7b a.go_type \x7d\x7d `json:\"\x7b\x7b a.normalized \x7d\x7d\" db:\"\x7b\x7b a.normalized \x7d\x7d\"`",
    "\x7b%- endfor %\x7d",
    "",
    "\tPassword             string `json:\"-\" db:\"-\"`",
    "\tPasswordConfirmation string `json:\"-\" db:\"-\"`",
    "\x7d",
    "",
    "// Create wraps up the pattern of encrypting the password and",
    "// running validations. Useful when writing tests.",
    "func (u *User) Create(tx *pop.Connection) (*validate.Errors, error) \x7b",
    "\tu.Email = strings.ToLower(strings.TrimSpace(u.Email))",
    "\tif err := u.hashPassword(); err != nil \x7b",
    "\t\treturn validate.NewErrors(), err",
    "\t\x7d",
    "\treturn tx.ValidateAndCreate(u)",
    "\x7d",
    "",
    "// UpdatePassword re-hashes the password and saves the user.",
    "func (u *User) UpdatePassword(tx *pop.Connection) (*validate.Errors, error) \x7b",
    "\tif err := u.hashPassword(); err != nil \x7b",
    "\t\treturn validate.NewErrors(), err",
    "\t\x7d",
    "\treturn tx.ValidateAndUpdate(u)",
    "\x7d",
    "",
    "func (u *User) hashPassword() error \x7b",
    "\tph, err := bcrypt.GenerateFromPassword([]byte(u.Password), bcrypt.DefaultCost)",
    "\tif err != nil \x7b",
    "\t\treturn errors.WithStack(err)",
    "\t\x7d",
    "\tu.PasswordHash = string(ph)",
    "\treturn nil",
    "\x7d",
    "",
    "// String is not required by pop and may be deleted",
    "func (u User) String() string \x7b",
    "\tju, _ := json.Marshal(u)",
    "\treturn string(ju)",
    "\x7d",
    "",
    "// Users is not required by pop and may be deleted",
    "type Users []User",
    "",
    "// Validate gets run every time you call a \"pop.Validate*\" (pop.ValidateAndSave, pop.ValidateAndCreate, pop.ValidateAndUpdate) method.",
    "func (u *User) Validate(tx *pop.Connection) (*validate.Errors, error) \x7b",
    "\tvar err error",
    "\treturn validate.Validate(",
    "\t\t&validators.StringIsPresent\x7bField: u.Email, Name: \"Email\"\x7d,",
    "\t\t&validators.StringIsPresent\x7bField: u.PasswordHash, Name: \"PasswordHash\"\x7d,",
    "\t\t// check to see if the email address is already taken:",
    "\t\t&validators.FuncValidator\x7b",
    "\t\t\tField:   u.Email,",
    "\t\t\tName:    \"Email\",",
    "\t\t\tMessage: \"%s is already taken\",",
    "\t\t\tFn: func() bool \x7b",
    "\t\t\t\tvar b bool",
    "\t\t\t\tq := tx.Where(\"email = ?\", u.Email)",
    "\t\t\t\tif u.ID != uuid.Nil \x7b",
    "\t\t\t\t\tq = q.Where(\"id != ?\", u.ID)",
    "\t\t\t\t\x7d",
    "\t\t\t\tb, err = q.Exists(u)",
    "\t\t\t\tif err != nil \x7b",
    "\t\t\t\t\treturn false",
    "\t\t\t\t\x7d",
    "\t\t\t\treturn !b",
    "\t\t\t\x7d,",
    "\t\t\x7d,",
    "\t), err",
    "\x7d",
    "",
    "// ValidateCreate gets run every time you call \"pop.ValidateAndCreate\" method.",
    "func (u *User) ValidateCreate(tx *pop.Connection) (*validate.Errors, error) \x7b",
    "\tvar err error",
    "\treturn validate.Validate(",
    "\t\t&validators.StringIsPresent\x7bField: u.Password, Name: \"Password\"\x7d,",
    "\t\t&validators.StringsMatch\x7bName: \"Password\", Field: u.Password, Field2: u.PasswordConfirmation, Message: \"Password does not match confirmation\"\x7d,",
    "\t), err",
    "\x7d",
    "",
    "// ValidateUpdate gets run every time you call \"pop.ValidateAndUpdate\" method.",
    "func (u *User) ValidateUpdate(tx *pop.Connection) (*validate.Errors, error) \x7b",
    "\treturn validate.NewErrors(), nil",
    "\x7d"]

end Scaffold.Bundled
