/-
**Settings.**

An operator sets the policy of the engine and the size of the filter in one document.  Settings that
load are such that there is a filter of the size they ask for.

Main definitions:

* `Settings` — the policy and the sizing;
* `SettingsError` — why there are none, and its wording;
* `Settings.ofText`, `Settings.ofFile` — the settings of a document.
-/

import AccountLedger.Document.Policy
import AccountLedger.Document.Sizing
import AccountLedger.Text.Utf8
import AccountLedger.Toml.Parser
import AccountLedger.Toml.Source

set_option relaxedAutoImplicit false
set_option autoImplicit false

namespace AccountLedger

/-- The policy of the engine and the size of the filter. -/
structure Settings where
  policy : Policy := {}
  sizing : Sizing := {}

/-- Why a document yields no settings. -/
inductive SettingsError
  /-- There is no file, or it is not text. -/
  | unreadable
  /-- The text is no document of settings. -/
  | malformed
  | sizing (e : SizingError)

/-- The wording of a settings failure. -/
def SettingsError.message : SettingsError → String
  | unreadable => "cannot read config"
  | malformed => "invalid config"
  | sizing e => "invalid filter sizing: " ++ e.message

namespace Settings

/-- The names of the settings in documents. -/
def names : List String := ["engine", "filter"]

/-- Settings from a record; both fields have usual values. -/
def read? {δ : Type} [Source δ] (d : δ) : Option Settings := do
  match ← Source.fields? names d with
  | [engine, filter] => do
      return {
        policy := ← Field.orElse Policy.read? {} engine
        sizing := ← Field.orElse Sizing.read? {} filter }
  | _ => none

/-- The settings of a document, with a filter size that exists. -/
def ofText (document : String) : Except SettingsError Settings :=
  match (Toml.parse document).bind read? with
  | none => .error .malformed
  | some s => (s.sizing.dimensions.map fun _ => s).mapError .sizing

/-- The settings of a file's bytes, if there is a file. -/
def ofFile (file : Option Bytes) : Except SettingsError Settings :=
  match file.bind Utf8.decode? with
  | none => .error .unreadable
  | some document => ofText document

end Settings

end AccountLedger
