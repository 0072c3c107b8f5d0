import RoutePatterns.Main
import RoutePatterns.Regex.Runs
import RoutePatterns.Session.Basic
import RoutePatterns.Proofs.Pattern.Cascade
import RoutePatterns.Proofs.Route.RoundTrip
import RoutePatterns.Proofs.Route.Printed
import RoutePatterns.Proofs.Route.Matcher
import RoutePatterns.Proofs.Route.Enforced
import RoutePatterns.Proofs.Route.Admission
import RoutePatterns.Proofs.Route.OptionalRun
import RoutePatterns.Proofs.Route.Lookahead
import RoutePatterns.Proofs.Session.Identity
import RoutePatterns.Proofs.Session.Accounting
import RoutePatterns.Proofs.Session.Faithful
import RoutePatterns.Proofs.Json.RoundTrip
import RoutePatterns.Proofs.CommandLine.Check
import RoutePatterns.Proofs.CommandLine.Compile
import RoutePatterns.Proofs.Route.Generated
import RoutePatterns.Proofs.Route.Literal
import RoutePatterns.Proofs.Table.CompiledOnce
import RoutePatterns.Proofs.Route.Lookups
import RoutePatterns.Proofs.Route.Consistent
import RoutePatterns.Proofs.Route.Parameters
import RoutePatterns.Proofs.Cache.Racing
import RoutePatterns.Proofs.Pattern.Marks
import RoutePatterns.Proofs.Route.Memo
import RoutePatterns.Proofs.Session.Memo
import RoutePatterns.Proofs.Session.Handles
