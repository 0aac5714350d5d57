import HostTree.Main
import HostTree.FileTree
import HostTree.Proofs.Store.Grouping
import HostTree.Proofs.Setting.Evaluation
import HostTree.Proofs.Walk.Effect
import HostTree.Proofs.Walk.Visit
import HostTree.Proofs.Declaration.Reading
import HostTree.Proofs.Outline.Children
import HostTree.Proofs.Walk.Run
import HostTree.Proofs.Walk.Unrolling
import HostTree.Proofs.Declaration.Change
import HostTree.Proofs.Declaration.Parts
import HostTree.Proofs.Outline.Place
import HostTree.Proofs.Walk.Agreement
import HostTree.Proofs.Walk.Inheritance
import HostTree.Proofs.Declaration.Order
import HostTree.Proofs.Setting.Order
import HostTree.Proofs.Walk.Order
import HostTree.Proofs.Walk.Chain
import HostTree.Proofs.Walk.Outcome
import HostTree.Proofs.Template.Reading
import HostTree.Proofs.Template.Token
import HostTree.Proofs.Template.Grammar
import HostTree.Proofs.Template.Composition
import HostTree.Proofs.Template.Escaping
import HostTree.Proofs.Template.Substitution
import HostTree.Proofs.Template.Mapping
import HostTree.Proofs.Template.Stem
import HostTree.Proofs.Walk.Name
import HostTree.Proofs.Declaration.Hiding
import HostTree.Proofs.Walk.Hiding
import HostTree.Proofs.Keyword.Search
import HostTree.Proofs.Keyword.Table
import HostTree.Proofs.Setting.Line
import HostTree.Proofs.Walk.Override
import HostTree.Proofs.Store.Row
import HostTree.Proofs.Value.Unbroken
import HostTree.Proofs.Template.Unbroken
import HostTree.Proofs.Declaration.Unbroken
import HostTree.Proofs.Walk.Rendering
import HostTree.Proofs.Store.Growth
import HostTree.Proofs.Walk.Session
import HostTree.Proofs.Walk.Wildcard
import HostTree.Proofs.Walk.Unknown
import HostTree.Proofs.Setting.Dropped
import HostTree.Proofs.Outline.Dropped
import HostTree.Proofs.Walk.Dropped
import HostTree.Proofs.Setting.Spelling
import HostTree.Proofs.Walk.Spelling
import HostTree.Proofs.Walk.Sibling
import HostTree.Proofs.Store.Merging
import HostTree.Proofs.Walk.Repetition
import HostTree.Proofs.Walk.Active
import HostTree.Proofs.Loop.Progression
import HostTree.Proofs.Loop.Writing
import HostTree.Proofs.Loop.Grammar
import HostTree.Proofs.Walk.Looping
import HostTree.Proofs.Store.Reading
import HostTree.Proofs.Store.History
import HostTree.Proofs.Command.Content
import HostTree.Proofs.Command.Loading
import HostTree.Proofs.FileTree.Writing
import HostTree.Proofs.Command.Agreement
import HostTree.Proofs.Path.Component
import HostTree.Proofs.Path.Home
import HostTree.Proofs.FileTree.Growth
import HostTree.Proofs.Command.Change
import HostTree.Proofs.Setting.Layering
import HostTree.Proofs.Walk.Nearest
import HostTree.Proofs.Declaration.Content
import HostTree.Proofs.Entries.Insertion
import HostTree.Proofs.Declaration.Splitting
import HostTree.Proofs.Value.Building
import HostTree.Proofs.Command.Ending
