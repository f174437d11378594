import Signpost.Router.Allow
import Signpost.Router.Published
import Signpost.Workload
import Signpost.Proofs.Trie.WellFormed
import Signpost.Proofs.Router.History
import Signpost.Proofs.Router.Walk
import Signpost.Proofs.Trie.Descent
import Signpost.Proofs.Router.RouteTable
import Signpost.Proofs.Regex.Meaning
import Signpost.Proofs.Regex.Path
import Signpost.Proofs.Regex.Code
import Signpost.Proofs.Regex.Anchor
import Signpost.Proofs.Regex.Reading
import Signpost.Proofs.Regex.Phrase
import Signpost.Proofs.Regex.Branch
import Signpost.Proofs.Regex.Nameless
import Signpost.Proofs.Regex.GroupName
import Signpost.Proofs.Template.Grammar
import Signpost.Proofs.Template.Shape
import Signpost.Proofs.Template.Single
import Signpost.Proofs.Regex.Groups
import Signpost.Proofs.Regex.Yield
import Signpost.Proofs.Regex.Rendering
import Signpost.Proofs.Trie.Trail
import Signpost.Proofs.Router.TypedRoute
import Signpost.Proofs.Router.Agreement
import Signpost.Proofs.Router.Unpruned
import Signpost.Proofs.Trie.Recording
import Signpost.Proofs.Router.Numbering
import Signpost.Proofs.Matcher.Outcome
import Signpost.Proofs.Trie.Unnumbered
import Signpost.Proofs.Router.Session
import Signpost.Proofs.Regex.Locality.Escape
import Signpost.Proofs.Regex.Locality.Bracket
import Signpost.Proofs.Regex.Locality.Reader
import Signpost.Proofs.Template.Anchored
import Signpost.Proofs.Router.Rejections
import Signpost.Proofs.Trie.Entries
import Signpost.Proofs.Trie.Planting
import Signpost.Proofs.RouteKey
import Signpost.Proofs.Router.Bindings
import Signpost.Proofs.Router.Transcript
import Signpost.Proofs.Router.Methods
import Signpost.Proofs.Router.Literal
import Signpost.Proofs.Router.Way
import Signpost.Proofs.Router.Familiar
import Signpost.Proofs.Router.Rearranged
import Signpost.Proofs.Trie.Rebinding
import Signpost.Proofs.Router.Replacement
import Signpost.Proofs.Router.Isolation
import Signpost.Proofs.Matcher.Sharing
import Signpost.Proofs.Template.Written
import Signpost.Proofs.Template.Compiling
import Signpost.Proofs.Template.Accepted
import Signpost.Proofs.Template.Scalar
import Signpost.Proofs.Template.Date
import Signpost.Proofs.Template.Place
import Signpost.Proofs.Router.Sharing
import Signpost.Proofs.Router.Publication
import Signpost.Proofs.Router.Misses
import Signpost.Proofs.Router.Tally
import Signpost.Proofs.Router.Overwriting
import Signpost.Proofs.Template.CatchAll
import Signpost.Proofs.Router.LastSegment
import Signpost.Proofs.Template.Compound
import Signpost.Proofs.Router.Slashes
import Signpost.Proofs.Router.AllowHeader
