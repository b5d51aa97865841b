import GraphViewer.Json.Decode
/-
How the viewer is set up. The page may hold a block of settings; every setting it leaves out has a
default, and a block that cannot be read counts as no block.
-/

namespace GraphViewer

inductive Theme where
  | light
  | dark
  deriving DecidableEq, Repr

def Theme.name : Theme → String
  | .light => "light"
  | .dark => "dark"

structure Config where
  apiBase : String := "/api/v1"
  requestTimeoutMs : Nat := 20000
  theme : Theme := .light
  maxNodes : Option Nat := none
  deriving DecidableEq, Repr

/-- A block of settings that cannot be read. -/
structure ConfigFault where
  cause : Json.Fault
  deriving Repr

def ConfigFault.message (f : ConfigFault) : String :=
  "invalid viewer config: " ++ f.cause.message

/-- An element of the page. -/
structure PageElement where
  id : String
  text : Option String
  deriving DecidableEq, Repr

namespace Config

structure Draft where
  apiBase : Option String := none
  requestTimeoutMs : Option Nat := none
  theme : Option Theme := none
  maxNodes : Option (Option Nat) := none

open Json Decode in
def record : Record Draft Config where
  name := "ViewerConfig"
  fields := [
    { name := "api_base", isSet := (·.apiBase.isSome)
      read := fun room t => do
        let v ← string room t
        return ({ · with apiBase := some v }) },
    { name := "request_timeout_ms", isSet := (·.requestTimeoutMs.isSome)
      read := fun room t => do
        let v ← word room t
        return ({ · with requestTimeoutMs := some v }) },
    { name := "theme", isSet := (·.theme.isSome)
      read := fun room t => do
        let v ← choice [("light", Theme.light), ("dark", Theme.dark)] room t
        return ({ · with theme := some v }) },
    { name := "max_nodes", isSet := (·.maxNodes.isSome)
      read := fun room t => do
        let v ← optional word room t
        return ({ · with maxNodes := some v }) }]
  blank := {}
  build d :=
    let standard : Config := {}
    .ok {
      apiBase := d.apiBase.getD standard.apiBase
      requestTimeoutMs := d.requestTimeoutMs.getD standard.requestTimeoutMs
      theme := d.theme.getD standard.theme
      maxNodes := d.maxNodes.getD none }

/-- The settings in a text. -/
def read (text : String) : Except ConfigFault Config :=
  (Json.decode record.decode text).mapError ConfigFault.mk

/-- The id of the element that holds the settings. -/
def elementId : String := "graph-viewer-config"

/-- The text of the settings on a page, if it has any. -/
def textOnPage? (page : List PageElement) : Option String :=
  (page.find? (·.id == elementId)).bind PageElement.text

/-- The settings of a page, and what is wrong with the block of them if it is not used. -/
def ofPage (page : List PageElement) : Config × Option ConfigFault :=
  match textOnPage? page with
  | none => ({}, none)
  | some text =>
    match read text with
    | .ok config => (config, none)
    | .error fault => ({}, some fault)

end Config

end GraphViewer
