import Crosscut.Advice.Error
import Crosscut.Advice.Kind
import Crosscut.Advice.Policy
import Crosscut.Advice.Signature
import Crosscut.Collect
import Crosscut.Engine
import Crosscut.Host.Annotation
import Crosscut.Host.Catalog
import Crosscut.Host.Instance
import Crosscut.Host.Type
import Crosscut.Interceptor
import Crosscut.Literal
import Crosscut.Logging
import Crosscut.Matcher
import Crosscut.Matching.Align
import Crosscut.Matching.Clause
import Crosscut.Matching.Formula
import Crosscut.Matching.Source
import Crosscut.Pattern
import Crosscut.Pattern.Wildcard
import Crosscut.Pointcut.Body
import Crosscut.Pointcut.Bound
import Crosscut.Pointcut.Clause
import Crosscut.Pointcut.Error
import Crosscut.Pointcut.Formula
import Crosscut.Pointcut.Grammar
import Crosscut.Pointcut.Named
import Crosscut.Pointcut.Parse
import Crosscut.Pointcut.Scope
import Crosscut.Pointcut.Signature
import Crosscut.Pointcut.Token
import Crosscut.Proofs.AdviceCalls
import Crosscut.Proofs.AdviceValidation
import Crosscut.Proofs.ArgumentAssembly
import Crosscut.Proofs.AspectOrder
import Crosscut.Proofs.BindingCompleteness
import Crosscut.Proofs.BindingFaults
import Crosscut.Proofs.BindingRule
import Crosscut.Proofs.BindingSources
import Crosscut.Proofs.CacheCoherence
import Crosscut.Proofs.ClauseNumbers
import Crosscut.Proofs.CoarseFilter
import Crosscut.Proofs.Commits
import Crosscut.Proofs.Composition
import Crosscut.Proofs.Derivations
import Crosscut.Proofs.DocumentLaws
import Crosscut.Proofs.DocumentMerging
import Crosscut.Proofs.DroppedTypes
import Crosscut.Proofs.ExhaustiveWeaving
import Crosscut.Proofs.Inheritance
import Crosscut.Proofs.InlineValues
import Crosscut.Proofs.LayerPrecedence
import Crosscut.Proofs.Layering
import Crosscut.Proofs.LeftmostAlignment
import Crosscut.Proofs.Lexemes
import Crosscut.Proofs.MethodIdentity
import Crosscut.Proofs.MethodLists
import Crosscut.Proofs.OverlappingScans
import Crosscut.Proofs.Overriding
import Crosscut.Proofs.ParameterPlaces
import Crosscut.Proofs.ParenthesisErrors
import Crosscut.Proofs.Partners
import Crosscut.Proofs.PointcutLookup
import Crosscut.Proofs.QualifiedNames
import Crosscut.Proofs.ReferenceCycles
import Crosscut.Proofs.RegistryHistory
import Crosscut.Proofs.ScanHistory
import Crosscut.Proofs.ScanOrder
import Crosscut.Proofs.Scoping
import Crosscut.Proofs.SettingsReading
import Crosscut.Proofs.ShadowsByMethod
import Crosscut.Proofs.SharedShadows
import Crosscut.Proofs.SignatureTexts
import Crosscut.Proofs.SlotLayout
import Crosscut.Proofs.StableShadows
import Crosscut.Proofs.Substitution
import Crosscut.Proofs.SyntaxTrees
import Crosscut.Proofs.TextLists
import Crosscut.Proofs.TextPieces
import Crosscut.Proofs.TokenScan
import Crosscut.Proofs.TokenTexts
import Crosscut.Proofs.VocabularyClashes
import Crosscut.Proofs.Weaving
import Crosscut.Proofs.WellTypedAdvice
import Crosscut.Proofs.WildcardBytes
import Crosscut.Proofs.WildcardPieces
import Crosscut.Proofs.WrittenTypes
import Crosscut.Registry
import Crosscut.Resolver
import Crosscut.Resolver.Cache
import Crosscut.Resolver.Reentry
import Crosscut.Resolver.Scan
import Crosscut.Settings.Document
import Crosscut.Settings.DocumentKit
import Crosscut.Settings.Environment
import Crosscut.Settings.Error
import Crosscut.Settings.FileTree
import Crosscut.Settings.Loader
import Crosscut.Settings.Profile
import Crosscut.Settings.Schema
import Crosscut.Settings.StandIn
import Crosscut.Settings.StandIn.Decode
import Crosscut.Settings.StandIn.Encode
import Crosscut.Settings.StandIn.Environment
import Crosscut.Settings.StandIn.Inline
import Crosscut.Settings.StandIn.Layer
import Crosscut.Settings.Validation
import Crosscut.Shadow
import Crosscut.Table
import Crosscut.Text.Alphanumeric
import Crosscut.Text.Blank
import Crosscut.Text.Lowercase
import Crosscut.Text.Lowering
import Crosscut.Text.Quoted
import Crosscut.Text.Span
import Crosscut.Text.Split
