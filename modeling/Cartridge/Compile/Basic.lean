import Cartridge.Compile.Data
import Cartridge.Compile.Reporter
import Cartridge.Source.Basic

/-!
# Compiling a project

A project becomes tables, the tables and events become scripts, and both become the sources that
are built with the engine.
-/

namespace Cartridge.Compile

open Cartridge.Files (FileTree)
open Cartridge.Source (FileSet)

/-- A project with its tables and its compiled scripts. -/
structure Scripted where
  tables : Tables
  /-- The names of the variables, by id. -/
  aliases : List (String × String)
  scenes : List SceneScripts
  /-- All scripts, in the order of their compilation. -/
  scripts : List Script.Compiled

/-- What the events of a project refer to. -/
def scopeOf (input : Tables.Input) (tables : Tables) (aliases : List (String × String)) :
    Script.Scope where
  schema := input.schema
  library := input.project.customEvents
  symbolFor? := tables.symbolFor?
  aliases := aliases

/-- Builds the tables of a project and compiles its scripts.  An interrupt is noticed in between. -/
def compileScripts (input : Tables.Input) (reporter : Reporter) (tree : FileTree) :
    Outcome Scripted := do
  let (tables, symbols) ← Tables.build input tree .empty
  let aliases := Source.variableAliases input.project tables.vars
  Outcome.ofExcept reporter.checkpoint
  let (scenes, session) :=
    compileScenes (scopeOf input tables aliases) tables.scenes { symbols := symbols }
  Outcome.withWarnings session.warnings
    { tables := tables, aliases := aliases, scenes := scenes, scripts := session.compiled }

namespace Scripted

/-- The files of the compiled scripts. -/
def scriptSet (scripted : Scripted) : Except Error FileSet :=
  FileSet.addFiles {} (scripted.scripts.flatMap Source.scriptFiles)

/-- What the sources are generated from. -/
def sourceInput (scripted : Scripted) (project : Project) (usedTypes : List String)
    (knownTypes : List Template.SceneType) : Source.Input where
  project := project
  tables := scripted.tables
  scripts := scripted.scenes
  aliases := scripted.aliases
  usedTypes := usedTypes
  knownTypes := knownTypes

/-- Adds the sources of the tables to the files of the scripts. -/
def addData (scripted : Scripted) (project : Project) (usedTypes : List String)
    (knownTypes : List Template.SceneType) (set : FileSet) : Except Error FileSet :=
  set.addFiles (Source.dataFiles (scripted.sourceInput project usedTypes knownTypes))

/-- The scenes as the debugger knows them. -/
def sceneIdentities (scripted : Scripted) : List SceneIdentity :=
  scripted.tables.scenes.map fun s => ⟨s.scene.id, s.name, s.symbol⟩

/-- The variables as the debugger knows them; one that the project does not list is called by its
id. -/
def variableIdentities (scripted : Scripted) (project : Project) : List VariableIdentity :=
  scripted.aliases.map fun (id, symbol) =>
    { symbol := symbol
      id := id
      name := ((project.vars.find? fun v => v.id = id).map (·.name)).getD
        ("Variable " ++ id) }

end Scripted

/-- The type of scenes that show a picture and nothing else. -/
def logoType : String := "LOGO"

/-- The scene types of a project in the order of its scenes, the logo type first. -/
def usedSceneTypes (project : Project) : List String :=
  let types := Tables.distinctBy id (project.scenes.map (·.type))
  if types.contains logoType then logoType :: types.filter (· ≠ logoType) else types

/-- Compiles a project: tables, scripts, files and maps. -/
def compileProject (input : Tables.Input) (reporter : Reporter) (tree : FileTree) : Outcome Data :=
  if input.project.scenes.isEmpty then .fail .noScenes
  else do
    let scripted ← compileScripts input reporter tree
    let set ← Outcome.ofExcept scripted.scriptSet
    let usedTypes := usedSceneTypes input.project
    let knownTypes ← Outcome.ofExcept input.template.sceneTypes
    let set ← Outcome.ofExcept (scripted.addData input.project usedTypes knownTypes set)
    return {
      files := set
      scenes := scripted.sceneIdentities
      vars := scripted.variableIdentities input.project
      usedTypes := usedTypes }

end Cartridge.Compile
