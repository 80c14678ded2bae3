import MalLint.Access
import MalLint.Check
import MalLint.CommandLine
import MalLint.Date
import MalLint.DatePattern
import MalLint.Diagnostic
import MalLint.Distinct
import MalLint.EndPlacement
import MalLint.Failure
import MalLint.FileTree
import MalLint.Findings
import MalLint.Instruction
import MalLint.Line
import MalLint.LineCheck
import MalLint.Log
import MalLint.Main
import MalLint.Operand
import MalLint.Path
import MalLint.Program
import MalLint.Proofs.Acceptance
import MalLint.Proofs.LabelWiring
import MalLint.Proofs.LineLayout
import MalLint.Proofs.LineRules
import MalLint.Proofs.Renumbering
import MalLint.Proofs.SourceComposition
import MalLint.Proofs.SourceLines
import MalLint.Proofs.SpellingRepair
import MalLint.Proofs.Verdict
import MalLint.Report
import MalLint.Run
import MalLint.Settings
import MalLint.SourceFile
import MalLint.Spelling
import MalLint.Tally
import MalLint.Text.Blank
import MalLint.Text.Capital
import MalLint.Text.ControlSequence
import MalLint.Text.Letter
import MalLint.Text.LineBreak
import MalLint.Text.Printable
import MalLint.Text.Quoted
import MalLint.Text.Ranges
import MalLint.Text.Utf8
import MalLint.Wiring
import MalLint.WordSet
import MalLint.Proofs.SourceForm
import MalLint.Proofs.Positions
import MalLint.Proofs.WiringGaps
import MalLint.Proofs.Relayout
import MalLint.Proofs.Reordering
import MalLint.Proofs.FileAccess
import MalLint.Proofs.SourceLookup
import MalLint.Proofs.RunCourse
import MalLint.Proofs.SourceSafety
import MalLint.Proofs.CommandReading
import MalLint.Proofs.RunContract
import MalLint.Proofs.ListingReader
import MalLint.Proofs.Utf8Coding
import MalLint.Proofs.FileCheck
import MalLint.Proofs.UnusedLabels
import MalLint.Proofs.ReportTotals
import MalLint.Proofs.SettingsInfluence
import MalLint.Proofs.StrayBranches
import MalLint.Proofs.EndLines
import MalLint.Proofs.EndPolicies
import MalLint.Proofs.SuggestionOrder
import MalLint.Proofs.OpcodeRepair
import MalLint.Proofs.OperandVerdict
import MalLint.Proofs.CheckOverlap
import MalLint.Proofs.IdentifierInventory
import MalLint.Proofs.OmittedSuffix
import MalLint.Proofs.TallyHistory
import MalLint.Proofs.LineTiling
import MalLint.Proofs.SettingsLayers
import MalLint.Proofs.LineWords
import MalLint.Proofs.Neighbourhood
import MalLint.Proofs.RequirementGroups
