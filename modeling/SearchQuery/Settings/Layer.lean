import SearchQuery.Files.Path
import SearchQuery.Settings.Basic

/-!
# Layers of settings

A settings file need not say everything: it is a layer that defines some fields and leaves the
others to the layers below it.  The lowest layer lies on the default settings, and every layer
overwrites what it defines, so a field has the value of the first layer that defines it.
-/

namespace SearchQuery

/-- What a settings file says about query parsing. -/
structure ParseLayer where
  maxQueryLength : Option Nat := none
  deriving DecidableEq, Repr

/-- What a settings file says about printing. -/
structure OutputLayer where
  format : Option OutputFormat := none
  color : Option Bool := none
  deriving DecidableEq, Repr

/-- What a settings file says. -/
structure Layer where
  /-- Whether the search for files ends here. -/
  root : Option Bool := none
  parse : Option ParseLayer := none
  output : Option OutputLayer := none
  deriving DecidableEq, Repr

/-- Overwrites the fields that the layer defines. -/
def ParseLayer.applyTo (layer : ParseLayer) (settings : ParseSettings) : ParseSettings :=
  { maxQueryLength := layer.maxQueryLength.getD settings.maxQueryLength }

/-- Overwrites the fields that the layer defines. -/
def OutputLayer.applyTo (layer : OutputLayer) (settings : OutputSettings) : OutputSettings :=
  { format := layer.format.getD settings.format
    color := layer.color.getD settings.color }

namespace Layer

/-- Overwrites the fields that the layer defines, section by section. -/
def applyTo (layer : Layer) (settings : Settings) : Settings :=
  { parse :=
      match layer.parse with
      | some parse => parse.applyTo settings.parse
      | none => settings.parse
    output :=
      match layer.output with
      | some output => output.applyTo settings.output
      | none => settings.output }

/-- Whether the search for files ends at this layer. -/
def isRoot (layer : Layer) : Bool :=
  layer.root = some true

end Layer

/-- The settings that layers give on top of the defaults, the uppermost layer first. -/
def Settings.ofLayers (layers : List Layer) : Settings :=
  layers.foldr Layer.applyTo {}

/-- A layer and the file that it was read from. -/
structure LayerFile where
  path : Path
  layer : Layer
  deriving DecidableEq, Repr

/-- The settings in effect and the directory of the uppermost file that they come from. -/
structure Configuration where
  settings : Settings := {}
  root : Option Path := none
  deriving DecidableEq, Repr

/-- The configuration that files give, the uppermost first. -/
def Configuration.ofFiles (files : List LayerFile) : Configuration :=
  { settings := Settings.ofLayers (files.map LayerFile.layer)
    root := files.head?.bind fun file => file.path.parent? }

end SearchQuery
