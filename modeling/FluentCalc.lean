/-
# A fluent calculator

Expressions such as `Calculator(10).Add(5).Square()` are parsed, run on a host
and reported. The modules go from texts and numbers over values and expressions
to hosts, runs, data formats and sessions.
-/

import FluentCalc.Expression.Location
import FluentCalc.Expression.Nodes
import FluentCalc.Host.Catalogue
import FluentCalc.Host.Direct
import FluentCalc.Main
import FluentCalc.Proofs.Decimal.Reading
import FluentCalc.Proofs.Decimal.RoundTrip
import FluentCalc.Proofs.Double.SignedZero
import FluentCalc.Proofs.Expression.Canonical
import FluentCalc.Proofs.Expression.Leftmost
import FluentCalc.Proofs.Expression.Location
import FluentCalc.Proofs.Expression.Outermost
import FluentCalc.Proofs.Expression.Tree
import FluentCalc.Proofs.Format.Sniffing
import FluentCalc.Proofs.Host.Inheritance
import FluentCalc.Proofs.Host.Integer
import FluentCalc.Proofs.Host.Naming
import FluentCalc.Proofs.Json.RoundTrip
import FluentCalc.Proofs.Json.Steps
import FluentCalc.Proofs.Run.Absorption
import FluentCalc.Proofs.Run.Calculator
import FluentCalc.Proofs.Run.Canonical
import FluentCalc.Proofs.Run.Compose
import FluentCalc.Proofs.Run.Direct
import FluentCalc.Proofs.Run.Failure
import FluentCalc.Proofs.Run.Ignored
import FluentCalc.Proofs.Run.Log
import FluentCalc.Proofs.Run.Margins
import FluentCalc.Proofs.Session.Counting
import FluentCalc.Proofs.Session.Excerpt
import FluentCalc.Proofs.Session.Lines
import FluentCalc.Session.Run
