import Scaffold.Command.Program
import Scaffold.Proofs.Run.Phases
import Scaffold.Proofs.Text.Cutting
import Scaffold.Proofs.Toml.Document
import Scaffold.Proofs.Toml.Quoted
/-!
# Settings that are read back

The document that shows the settings is a valid TOML document, the layers that are put under and
over it change nothing, and so a program that is given the document as its settings file has the
same settings again.
-/

namespace Scaffold

/-! ## The document -/

namespace Toml

theorem isValue_text (text : String) : IsValue (writeQuoted text.toList) (.text text) where
  begins := by
    have hhead := head?_writeQuoted text.toList []
    rw [List.append_nil] at hhead
    rcases hhead with h | h
    · exact ⟨'"', h, by decide⟩
    · exact ⟨'\'', h, by decide⟩
  reads n rest := by
    have hread : readQuoted (writeQuoted text.toList ++ '\n' :: rest) =
        some (text.toList, '\n' :: rest) :=
      readQuoted_writeQuoted text.toList ⟨by simp, by simp⟩
    have hhead := head?_writeQuoted text.toList ('\n' :: rest)
    generalize writeQuoted text.toList ++ '\n' :: rest = cs at hread hhead ⊢
    rcases hhead with h | h <;> obtain ⟨tail, rfl⟩ := List.head?_eq_some_iff.mp h <;>
      simp only [readValue, hread, Option.map_some, String.ofList_toList]

theorem isValue_boolean (b : Bool) :
    IsValue (if b then "true" else "false").toList (.boolean b) := by
  cases b with
  | false => exact ⟨⟨'f', rfl, by decide⟩, fun n rest => rfl⟩
  | true => exact ⟨⟨'t', rfl, by decide⟩, fun n rest => rfl⟩

def Field.ofText (key text : String) : Field :=
  ⟨key, writeQuoted text.toList, .text text⟩

def Field.ofTruth (key : String) (b : Bool) : Field :=
  ⟨key, (if b then "true" else "false").toList, .boolean b⟩

def Field.ofOption (key : String) (text : Option String) : List Field :=
  (text.map (ofText key)).toList

end Toml

namespace Settings

open Toml

def generatorPart (settings : Settings) : Part where
  name := "generator"
  fields :=
    Field.ofOption "root" settings.root ++ Field.ofOption "templates_dir" settings.templates ++
      [.ofText "migrations_dir" settings.migrations]

def outputPart (settings : Settings) : Part where
  name := "output"
  fields := [.ofTruth "no_color" settings.noColor, .ofText "format" settings.format]

def parts (settings : Settings) : List Part :=
  [settings.generatorPart, settings.outputPart]

theorem tomlOption_eq (key : String) (text : Option String) :
    tomlOption key text = (Field.ofOption key text).flatMap Field.text := by
  cases text with
  | none => rfl
  | some text => exact (List.append_nil _).symm

theorem toToml_eq (settings : Settings) :
    settings.toToml = String.ofList (Text.joinWith ['\n'] (settings.parts.map Part.text)) := by
  have hgenerator : "[generator]\n".toList = '[' :: ("generator".toList ++ [']', '\n']) := rfl
  have houtput : "\n[output]\n".toList = '\n' :: '[' :: ("output".toList ++ [']', '\n']) := rfl
  have htext (key text : String) :
      tomlLine key (writeQuoted text.toList) = (Field.ofText key text).text := rfl
  have htruth (key : String) (b : Bool) :
      tomlLine key (if b then "true" else "false").toList = (Field.ofTruth key b).text := rfl
  unfold toToml parts generatorPart outputPart
  simp only [hgenerator, houtput, tomlOption_eq, htext, htruth, List.map_cons, List.map_nil,
    Text.joinWith, Part.text, List.flatMap_append, List.flatMap_cons, List.flatMap_nil,
    List.cons_append, List.nil_append, List.append_nil, List.append_assoc]

theorem head?_toToml (settings : Settings) : settings.toToml.toList.head? = some '[' := by
  rw [toToml_eq, String.toList_ofList]
  rfl

theorem isReadable_generatorPart (settings : Settings) : settings.generatorPart.IsReadable := by
  have hmem : ∀ field ∈ settings.generatorPart.fields,
      ∃ key ∈ ["root", "templates_dir", "migrations_dir"], ∃ text, field = .ofText key text := by
    intro field hfield
    rw [generatorPart, List.mem_append, List.mem_append, List.mem_singleton] at hfield
    have hoption {key : String} {text : Option String} (h : field ∈ Field.ofOption key text) :
        ∃ text, field = .ofText key text := by
      obtain ⟨text, -, rfl⟩ := Option.map_eq_some_iff.mp (Option.mem_toList.mp h)
      exact ⟨text, rfl⟩
    rcases hfield with (hroot | htemplates) | hmigrations
    · exact ⟨"root", by decide, hoption hroot⟩
    · exact ⟨"templates_dir", by decide, hoption htemplates⟩
    · exact ⟨"migrations_dir", by decide, _, hmigrations⟩
  have hbare : ∀ key ∈ ["root", "templates_dir", "migrations_dir"], IsBareKey key := by decide
  refine ⟨show IsBareKey "generator" by decide, fun field hfield => ?_, fun field hfield => ?_, ?_⟩
  · obtain ⟨key, hkey, text, rfl⟩ := hmem field hfield
    exact hbare key hkey
  · obtain ⟨key, -, text, rfl⟩ := hmem field hfield
    exact isValue_text text
  · obtain ⟨root, templates, migrations, noColor, format⟩ := settings
    cases root <;> cases templates <;> simp [generatorPart, Field.ofOption, Field.ofText]

theorem isReadable_outputPart (settings : Settings) : settings.outputPart.IsReadable := by
  refine ⟨show IsBareKey "output" by decide, ?_, ?_, show ["no_color", "format"].Nodup by decide⟩ <;>
    rw [outputPart, List.forall_mem_cons, List.forall_mem_singleton]
  · exact ⟨show IsBareKey "no_color" by decide, show IsBareKey "format" by decide⟩
  · exact ⟨isValue_boolean settings.noColor, isValue_text settings.format⟩

theorem parse_toToml (settings : Settings) :
    parse settings.toToml = some (.table (settings.parts.map Part.entry)) := by
  rw [toToml_eq]
  refine parse_parts ?_ (show ["generator", "output"].Nodup by decide)
  rw [parts, List.forall_mem_cons, List.forall_mem_singleton]
  exact ⟨settings.isReadable_generatorPart, settings.isReadable_outputPart⟩

/-! ## The layers -/

theorem variableLayer_eq_nil {environment : Variables}
    (h : ∀ e ∈ environment, ¬ "stitch__".toList <+: Text.lower e.1.toList) :
    variableLayer environment = [] := by
  rw [variableLayer, List.filterMap_eq_nil_iff]
  intro e he
  have hnone := Text.afterPrefix?_eq_none_iff.mpr (h e he)
  simp only [keyOf?, hnone, Option.map_none]

/-- The settings over the defaults are the settings; an option that is left out stays unset. -/
theorem ofTable?_addLayer (settings : Settings) :
    ofTable? (addLayer defaultTable (settings.parts.map Part.entry)) = some settings := by
  obtain ⟨root, templates, migrations, noColor, format⟩ := settings
  have hgenerator : pathOf "generator".toList = ["generator"] := by decide
  have houtput : pathOf "output".toList = ["output"] := by decide
  simp only [addLayer, parts, generatorPart, outputPart, List.map_cons, List.map_nil, Part.entry,
    List.foldl_cons, List.foldl_nil, hgenerator, houtput, assignPath, assign]
  cases root <;> cases templates <;>
    simp only [Field.ofOption, Field.ofText, Field.ofTruth, Field.entry, Option.map_some,
      Option.map_none, Option.toList_some, Option.toList_none, List.nil_append, List.cons_append,
      List.map_cons, List.map_nil, assign, assignAll] <;>
    rfl

theorem load_toToml (settings : Settings) (path : String) {environment : Variables}
    (h : ∀ e ∈ environment, ¬ "stitch__".toList <+: Text.lower e.1.toList) :
    load (some (path, settings.toToml)) environment = .ok settings := by
  have hlayers : ofTable? (addLayer (addLayer defaultTable (settings.parts.map Part.entry)) []) =
      some settings :=
    settings.ofTable?_addLayer
  unfold load
  simp only [parse_toToml, variableLayer_eq_nil h, Value.entries, bind, Except.bind, hlayers]

end Settings

/-! ## Octets -/

namespace Text.Utf8

theorem toList_loop_eq_data (content : ByteArray) (i : Nat) (octets : List UInt8) :
    ByteArray.toList.loop content i octets = octets.reverse ++ content.data.toList.drop i := by
  induction i, octets using ByteArray.toList.loop.induct content with
  | case1 i octets hi ih =>
      have hlength : i < content.data.toList.length := by simpa using hi
      have hget : content.get! i = content.data.toList[i] := getElem!_pos content.data i hi
      rw [ByteArray.toList.loop, if_pos hi, ih, List.drop_eq_getElem_cons hlength, hget,
        List.reverse_cons, List.append_assoc, List.singleton_append]
  | case2 i octets hi =>
      have hlength : content.data.toList.length ≤ i := by simpa using hi
      rw [ByteArray.toList.loop, if_neg hi, List.drop_eq_nil_of_le hlength, List.append_nil]

theorem toList_eq_data (content : ByteArray) : content.toList = content.data.toList := by
  rw [ByteArray.toList, toList_loop_eq_data, List.reverse_nil, List.nil_append, List.drop_zero]

/-- The octets of a text begin with those of another one only if the text begins with it. -/
theorem isPrefix_of_octets {start text : String}
    (h : start.toUTF8.toList <+: text.toUTF8.toList) : start.toList <+: text.toList := by
  obtain ⟨rest, hrest⟩ := h
  rw [toList_eq_data, toList_eq_data] at hrest
  have hencode : start.toList.utf8Encode ++ rest.toByteArray = text.toList.utf8Encode := by
    rw [← String.toByteArray_ofList, ← String.toByteArray_ofList, String.ofList_toList,
      String.ofList_toList]
    apply ByteArray.ext
    apply Array.toList_inj.mp
    rw [ByteArray.data_append, Array.toList_append, List.toList_data_toByteArray]
    exact hrest
  exact List.isPrefix_of_utf8Encode_append_eq_utf8Encode _ hencode

end Text.Utf8

/-! ## The file -/

theorem Disk.isFile_of_bytes {disk : Disk} {path : Path} {content : ByteArray}
    (h : disk.bytes path = .ok content) : disk.isFile path = true := by
  unfold Disk.bytes at h
  unfold Disk.isFile
  split at h <;> simp_all

namespace Command

open Run

theorem settingsText_toUTF8 {text : String} (h : text.toList.head? ≠ some '\uFEFF') :
    settingsText text.toUTF8 = text := by
  have hmark : [0xEF, 0xBB, 0xBF].isPrefixOf text.toUTF8.toList = false := by
    rw [Bool.eq_false_iff, ne_eq, List.isPrefixOf_iff_prefix]
    have hoctets : "\uFEFF".toUTF8.toList = [0xEF, 0xBB, 0xBF] := by
      rw [Text.Utf8.toList_eq_data]
      decide
    rw [← hoctets]
    intro hbegins
    obtain ⟨rest, hrest⟩ := Text.Utf8.isPrefix_of_octets hbegins
    rw [← hrest] at h
    exact h rfl
  have hdecode : String.fromUTF8? text.toUTF8 = some text :=
    Text.Utf8.fromUTF8?_eq_some_iff.mpr rfl
  rw [settingsText, hmark]
  simp only [Bool.false_eq_true, if_false, Text.Utf8.decode, hdecode]

/-- The settings file: the one that the command line names, or else the usual one. -/
def IsSettingsFile (environment : Settings.Variables) (options : GlobalOptions) (path : Path) :
    Prop :=
  match options.config with
  | some name => path = ⟨name⟩ ∧ isToml path = true
  | none => path = settingsPath environment

section

variable {disk : Disk} {path : Path} {settings : Settings}
  (h : disk.bytes path = .ok settings.toToml.toUTF8)

include h

theorem run_readSettings :
    (readSettings Host.ofDisk path).run disk = (.ok (path.text, settings.toToml), disk) := by
  have hbytes : (Host.ofDisk.bytes? path).run disk = (some settings.toToml.toUTF8, disk) := by
    show ((disk.bytes path).toOption, disk) = _
    rw [h]
    rfl
  have htext : settingsText settings.toToml.toUTF8 = settings.toToml :=
    settingsText_toUTF8 (by rw [settings.head?_toToml]; decide)
  rw [readSettings, run_bind_of_run_eq hbytes]
  dsimp only
  rw [htext]
  rfl

theorem run_isFile : (Host.ofDisk.isFile path).run disk = (true, disk) := by
  show (disk.isFile path, disk) = _
  rw [Disk.isFile_of_bytes h]

theorem run_namedSettings {name : String} (hname : path = ⟨name⟩) (hpath : isToml path = true)
    (working : Path) :
    (namedSettings Host.ofDisk working name).run disk =
      (.ok (some (path.text, settings.toToml)), disk) := by
  rw [namedSettings, ← hname, run_bind_of_run_eq (run_isFile h), if_neg (by decide), hpath,
    if_neg (by decide), run_bind_of_run_eq (run_readSettings h)]
  rfl

theorem run_usualSettings :
    (usualSettings Host.ofDisk path).run disk =
      (.ok (some (path.text, settings.toToml)), disk) := by
  rw [usualSettings, run_bind_of_run_eq (run_isFile h), if_pos rfl,
    run_bind_of_run_eq (run_readSettings h)]
  rfl

end

/-- Settings that are printed are read back. If the settings file holds the document that shows some
settings, and no variable of the environment gives a setting, then these settings are in effect. -/
theorem printed_settings_read_back {settings : Settings} {disk : Disk} {path : Path}
    {environment : Settings.Variables} {options : GlobalOptions}
    (hpath : IsSettingsFile environment options path)
    (hbytes : disk.bytes path = .ok settings.toToml.toUTF8)
    (hvariables : ∀ e ∈ environment, ¬ "stitch__".toList <+: Text.lower e.1.toList)
    (working : Path) :
    (loadSettings Host.ofDisk working environment options).run disk = (.ok settings, disk) := by
  have hload : Settings.load (some (path.text, settings.toToml)) environment = .ok settings :=
    settings.load_toToml path.text hvariables
  have hdone : (pure (Settings.load (some (path.text, settings.toToml)) environment) :
      StateM Disk (Except Settings.Fault Settings)).run disk = (.ok settings, disk) := by
    rw [hload]
    rfl
  unfold loadSettings
  unfold IsSettingsFile at hpath
  cases hconfig : options.config with
  | some name =>
      rw [hconfig] at hpath
      obtain ⟨hname, htoml⟩ := hpath
      exact (run_bind_of_run_eq (run_namedSettings hbytes hname htoml working)).trans hdone
  | none =>
      rw [hconfig] at hpath
      obtain rfl : path = settingsPath environment := hpath
      exact (run_bind_of_run_eq (run_usualSettings hbytes)).trans hdone

/-- Quotation marks of both kinds, three in a row, a backslash, newlines, control characters and an
option that is not set are read back. -/
theorem odd_settings_read_back :
    let settings : Settings :=
      ⟨some "C:\\\"a\"\n'b'", none, "\x00\té\x7f", true, "'''\"\"\"\r\n"⟩
    let environment : Settings.Variables :=
      [("HOME", "/home/u"), ("STITCH_TEMPLATES_DIR", "templates")]
    let options : GlobalOptions := ⟨0, false, false, some "/etc/odd.toml", .auto⟩
    let disk : Disk := ⟨.directory [("etc", .directory [])], []⟩
    let written := (disk.write ⟨"/etc/odd.toml"⟩ settings.toToml.toUTF8).2
    (loadSettings Host.ofDisk ⟨"/"⟩ environment options).run written = (.ok settings, written) := by
  intro settings environment options disk written
  have hpath : IsSettingsFile environment options ⟨"/etc/odd.toml"⟩ := ⟨rfl, by decide⟩
  have hbytes : written.bytes ⟨"/etc/odd.toml"⟩ = .ok settings.toToml.toUTF8 := rfl
  exact printed_settings_read_back hpath hbytes (by decide) ⟨"/"⟩

end Command

end Scaffold
