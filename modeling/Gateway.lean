import Gateway.Session.ServerStep
import Gateway.Session.Query
import Gateway.Session.TableStep
import Gateway.Settings.CommandLine
import Gateway.Proofs.Core.Exchanges
import Gateway.Table.Lemmas
import Gateway.Text.Extender
import Gateway.Text.Unprintable
import Gateway.Proofs.Response.Sink
import Gateway.Proofs.Response.Step
import Gateway.Proofs.Response.Wire
import Gateway.Proofs.Header.Name
import Gateway.Proofs.Text.Lines
import Gateway.Proofs.Header.Block
import Gateway.Proofs.Environment.Pending
import Gateway.Proofs.Environment.Step
import Gateway.Proofs.Environment.Lifetime
import Gateway.Proofs.Body
import Gateway.Proofs.Response.Reliable
import Gateway.Proofs.Cache
import Gateway.Proofs.Demo.Reply
import Gateway.Proofs.Text.Utf8
import Gateway.Proofs.Demo.Cache
import Gateway.Proofs.Cache.Map
import Gateway.Proofs.Core.Local
import Gateway.Proofs.Program
import Gateway.Proofs.Isolation.Turn
import Gateway.Proofs.Bridge
import Gateway.Proofs.Isolation.Requests
import Gateway.Proofs.Plugin.Panic
import Gateway.Proofs.Response.Double
import Gateway.Proofs.Service.Effect
import Gateway.Proofs.Service.Log
import Gateway.Proofs.Service.Run
import Gateway.Proofs.Signal.Registration
import Gateway.Proofs.Cache.Locks
import Gateway.Proofs.Plugin.Refusal
import Gateway.Proofs.Header.Variable
import Gateway.Proofs.Header.Map
import Gateway.Proofs.Request.RoundTrip
import Gateway.Proofs.Response.Failure
import Gateway.Proofs.Request.Parts
import Gateway.Proofs.Request.Headers
import Gateway.Proofs.Request.Order
import Gateway.Proofs.Request.Defects
import Gateway.Proofs.Router
import Gateway.Proofs.Response.ContentType
import Gateway.Proofs.Request.Length
import Gateway.Proofs.Uri.Target
import Gateway.Proofs.Request.Uri
import Gateway.Proofs.Uri.Authority
import Gateway.Proofs.Request.Host
import Gateway.Proofs.Body.Reads
import Gateway.Proofs.Body.Drain
import Gateway.Proofs.Form
import Gateway.Proofs.Uri.Query
import Gateway.Proofs.Demo.Routes
import Gateway.Proofs.Demo.Greeting
import Gateway.Proofs.Response.Accepts
import Gateway.Proofs.Response.Once
import Gateway.Proofs.Demo.Answers
import Gateway.Proofs.Environment.Unserved
import Gateway.Proofs.Signal.Modifier
import Gateway.Proofs.Plugin.Installation
import Gateway.Proofs.Table.Workers
import Gateway.Proofs.Header.Value
import Gateway.Proofs.Header.Canonical
import Gateway.Proofs.Request.Collision
import Gateway.Proofs.Header.Room
import Gateway.Proofs.Demo.Expiry
