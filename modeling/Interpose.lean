import Interpose.Text.LetterCase
import Interpose.Text.Quoted
import Interpose.Text.Integer
import Interpose.Text.Alphanumeric
import Interpose.Text.Identifier
import Interpose.Metadata.Hierarchy
import Interpose.Pointcut.Expression.Parser
import Interpose.Pointcut.Cache
import Interpose.Pointcut.Matching
import Interpose.Component.Registry
import Interpose.Container.Basic
import Interpose.Weaving.Advice
import Interpose.Weaving.Template
import Interpose.Weaving.Container
import Interpose.Script.Aspect
import Interpose.Script.Intercepted
import Interpose.Script.Data
import Interpose.Source.Token
import Interpose.Source.Quoting
import Interpose.Source.Scanning
import Interpose.Source.TypeExpr
import Interpose.Source.Reader
import Interpose.Source.TypeReader
import Interpose.Source.Compact
import Interpose.Source.Literal
import Interpose.Source.Attribute
import Interpose.Source.Item
import Interpose.Source.ItemReader
import Interpose.Declaration.Fault
import Interpose.Declaration.Component
import Interpose.Declaration.Methods
import Interpose.Declaration.Aspect
import Interpose.Source.Data
import Interpose.Number.Binary64
import Interpose.Toml.DateTime
import Interpose.Toml.Value
import Interpose.Toml.Reader
import Interpose.Toml.Text
import Interpose.Toml.Number
import Interpose.Toml.Section
import Interpose.Toml.Document
import Interpose.Toml.Moment
import Interpose.Table
import Interpose.Setting.Basic
import Interpose.Setting.Source
import Interpose.Setting.Environment
import Interpose.Toml.Record
import Interpose.Weaving.Config
import Interpose.Logging.Config
import Interpose.Logging.Pattern
import Interpose.Logging.Directive
import Interpose.Setting.Data
import Interpose.Sample.Member
import Interpose.Sample.Shop
import Interpose.Sample.Ledger
import Interpose.Proofs.Outcome
import Interpose.Proofs.Pointcut.Matching
import Interpose.Proofs.Pointcut.Meaning
import Interpose.Proofs.Weaving.Nesting
import Interpose.Proofs.Component.Registry
import Interpose.Proofs.Weaving.Ranked
import Interpose.Proofs.Weaving.Layer
import Interpose.Proofs.Weaving.Proxy
import Interpose.Proofs.Metadata.Modifiers
import Interpose.Proofs.Weaving.Build
import Interpose.Proofs.Weaving.Dispatch
import Interpose.Proofs.Pointcut.Cache
import Interpose.Proofs.Pointcut.Spelling
import Interpose.Proofs.Pointcut.Reading
import Interpose.Proofs.Pointcut.Grammar
import Interpose.Proofs.Pointcut.Printing
import Interpose.Proofs.Container.Code
import Interpose.Proofs.Container.History
import Interpose.Proofs.Container.Discipline
import Interpose.Proofs.Container.Creation
import Interpose.Proofs.Container.Service
import Interpose.Proofs.Container.Dependency
import Interpose.Proofs.Container.Settling
import Interpose.Proofs.Container.Search
import Interpose.Proofs.Component.Assembly
import Interpose.Proofs.Weaving.FieldLayer
import Interpose.Proofs.Weaving.Coverage
import Interpose.Proofs.Weaving.Synthesis
import Interpose.Proofs.Weaving.Unadvised
import Interpose.Proofs.Weaving.Agreement
import Interpose.Proofs.Weaving.FieldNesting
import Interpose.Proofs.Weaving.Wiring
import Interpose.Proofs.Weaving.Injection
import Interpose.Proofs.Container.Presence
import Interpose.Proofs.Weaving.Making
import Interpose.Proofs.Weaving.Transparency
import Interpose.Proofs.Pointcut.Algebra
import Interpose.Proofs.Pointcut.Lexing
import Interpose.Proofs.Pointcut.Compiling
import Interpose.Proofs.Pointcut.Display
import Interpose.Proofs.Pointcut.Shown
import Interpose.Proofs.Pointcut.RoundTrip
import Interpose.Proofs.Pointcut.Acceptance
import Interpose.Proofs.Weaving.Watching
import Interpose.Proofs.Weaving.Attachment
import Interpose.Proofs.Weaving.Hooks
import Interpose.Proofs.Weaving.Recoding
import Interpose.Proofs.Weaving.Phases
import Interpose.Proofs.Weaving.Unwoven
import Interpose.Proofs.Weaving.Kinds
import Interpose.Proofs.Weaving.Exchange
import Interpose.Proofs.Weaving.Bookkeeping
import Interpose.Proofs.Weaving.Merging
import Interpose.Proofs.Weaving.Judgement
import Interpose.Proofs.Weaving.Memoization
import Interpose.Proofs.Container.Blame
import Interpose.Proofs.Metadata.Ancestry
import Interpose.Proofs.Pointcut.Covariance
import Interpose.Proofs.Component.Validity
import Interpose.Proofs.Component.Registration
import Interpose.Proofs.Container.Resolution
import Interpose.Proofs.Pointcut.Parameters
import Interpose.Proofs.Pointcut.Wildcards
import Interpose.Proofs.Pointcut.Dots
import Interpose.Proofs.Pointcut.Height
import Interpose.Proofs.Pointcut.Cutting
import Interpose.Proofs.Pointcut.Relocation
import Interpose.Proofs.Pointcut.Diagnosis
import Interpose.Proofs.Pointcut.Layout
import Interpose.Proofs.Weaving.Filling
import Interpose.Proofs.Setting.Precedence
import Interpose.Proofs.Setting.Variables
import Interpose.Proofs.Toml.Table
import Interpose.Proofs.Toml.Section
import Interpose.Proofs.Toml.Document
import Interpose.Proofs.Setting.Flattening
import Interpose.Proofs.Toml.Moment
import Interpose.Proofs.Weaving.Configuration
import Interpose.Proofs.Weaving.Placement
import Interpose.Proofs.Table
import Interpose.Proofs.Source.Members
import Interpose.Proofs.Declaration.Wrapping
import Interpose.Proofs.Declaration.Derivation
import Interpose.Proofs.Weaving.Growth
import Interpose.Proofs.Declaration.Advising
