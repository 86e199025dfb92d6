import GrantList.RuleSet
import GrantList.Yaml.Reader

/-!
# Data files

Rule sets and catalogs are YAML files. This module says which fields they have.
-/

namespace GrantList

open Yaml (Fault Node ReadM field fieldD readText)

/-- Reads an entity of a rule file. -/
def EntityRecord.ofNode (node : Node) : ReadM EntityRecord := do
  let l ← node.fields ["key", "auto_shieldprof"]
  return {
    key := ← field "key" Node.text l
    values := ← fieldD "auto_shieldprof" (Node.list Node.text) [] l }

/-- Reads a rule file. -/
def RuleSet.ofNode (node : Node) : ReadM RuleSet := do
  let l ← node.fields ["entities"]
  return { entities := ← fieldD "entities" (Node.list EntityRecord.ofNode) [] l }

/-- Reads the name of a proficiency of a catalog file. -/
def Catalog.proficiencyOfNode (node : Node) : ReadM String := do
  field "name" Node.text (← node.fields ["name"])

/-- Reads an equipment item of a catalog file. -/
def Equipment.ofNode (node : Node) : ReadM Equipment := do
  let l ← node.fields ["name", "types", "proficiency"]
  return {
    name := ← field "name" Node.text l
    types := ← fieldD "types" (Node.list Node.text) [] l
    proficiency := ← fieldD "proficiency" Node.text? none l }

/-- Reads a catalog file. -/
def Catalog.ofNode (node : Node) : ReadM Catalog := do
  let l ← node.fields ["proficiencies", "equipment"]
  return {
    proficiencies := ← fieldD "proficiencies" (Node.list Catalog.proficiencyOfNode) [] l
    equipment := ← fieldD "equipment" (Node.list Equipment.ofNode) [] l }

/-- The rule set that the text of a file holds. -/
def RuleSet.ofYaml (s : String) : Except Fault RuleSet :=
  readText s RuleSet.ofNode

/-- The catalog that the text of a file holds. -/
def Catalog.ofYaml (s : String) : Except Fault Catalog :=
  readText s Catalog.ofNode

end GrantList
