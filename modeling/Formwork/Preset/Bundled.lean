import Formwork.Preset.Basic

/-!
# The bundled presets

The presets that come with the library, and how one is found by its name.
-/

namespace Formwork.Preset

/-- The text of the template of a component: its lines, the last of which is empty. -/
def componentSource : Text :=
  Text.unlines ([
    "import React from 'react';",
    "import PropTypes from 'prop-types';",
    "",
    "/**",
    " * \x7b\x7bcomponent\x7d\x7d component",
    " * \x7b\x7bdescription\x7d\x7d",
    " * @author \x7b\x7bauthor\x7d\x7d",
    " */",
    "const \x7b\x7bcomponent\x7d\x7d = (\x7b \x7b\x7bprops\x7d\x7d \x7d) => \x7b",
    "  return (",
    "    <div className=\"\x7b\x7bcomponent_class\x7d\x7d\">",
    "      <h1>\x7b\x7bcomponent\x7d\x7d</h1>",
    "      \x7b/* Component content */\x7d",
    "    </div>",
    "  );",
    "\x7d;",
    "",
    "\x7b\x7bcomponent\x7d\x7d.propTypes = \x7b",
    "  \x7b\x7bprop_types\x7d\x7d",
    "\x7d;",
    "",
    "\x7b\x7bcomponent\x7d\x7d.defaultProps = \x7b",
    "  \x7b\x7bdefault_props\x7d\x7d",
    "\x7d;",
    "",
    "export default \x7b\x7bcomponent\x7d\x7d;",
    ""] : List Text)

/-- A function component with the types and the defaults of its properties.  The class of its
element is the name of the component in kebab case. -/
def component : Preset where
  name := "react-component"
  description := "React function component with propTypes and defaultProps"
  template := "react-component.jsx"
  source := componentSource
  rules := [.ofStyle "component_class" "component" .kebab "kebab case of component"]
  defaults := .ofList [("description", []), ("author", []), ("props", []), ("prop_types", []),
    ("default_props", [])]
  outputName := "\x7b\x7bcomponent\x7d\x7d.jsx"

/-- All presets that come with the library. -/
def bundled : List Preset := [component]

structure Unknown where
  name : Text
  deriving Repr, DecidableEq

def Unknown.message (u : Unknown) : Text :=
  "Unknown preset '" ++ u.name ++ "'; available: "
    ++ Names.commaList (Names.sorted (bundled.map Preset.name))

def ofName (name : Text) : Except Unknown Preset :=
  match bundled.find? fun p => p.name == name with
  | some p => .ok p
  | none => .error ⟨name⟩

end Formwork.Preset
