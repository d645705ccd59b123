import Geocoding.Settings

/-!
# Template files

Address templates by country. The code of a country is looked up in lower case; without an entry for it
the file's default is used, and without a default the standard template.
-/

namespace Geocoding

/-- The contents of a template file. -/
structure TemplateFile where
  standard : Option String
  countries : List (String × String)
  deriving DecidableEq, Repr

namespace TemplateFile

/-- Reads a template file. -/
def ofToml? (v : Toml.Value) : Option TemplateFile := do
  match ← v.parts? ["default", "countries"] with
  | [standard, countries] =>
    return ⟨← Toml.optional? Toml.Value.text? standard,
      ← Toml.withDefault? [] Toml.Value.texts? countries⟩
  | _ => none

/-- Reads the text of a template file. -/
def ofText (text : String) : Except SettingsError TemplateFile :=
  match (Toml.read? text).bind ofToml? with
  | some f => .ok f
  | none => .error .malformed

/-- The template of a country. -/
def template (f : TemplateFile) (country : Option String) : Template :=
  let ofCountry := country.bind fun code => f.countries.lookup (Text.lower code)
  ((ofCountry.or f.standard).map Template.mk).getD .standard

/-- Reads the template of a country from a file. -/
def load (files : Files) (path : String) (country : Option String) :
    Except SettingsError Template := do
  let f ← ofText (← files.text path)
  return f.template country

end TemplateFile

end Geocoding
