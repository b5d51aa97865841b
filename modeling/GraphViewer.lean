import GraphViewer.Text.Blank
import GraphViewer.Text.Lowercase
import GraphViewer.Text.Infix
import GraphViewer.Text.Quoted
import GraphViewer.Text.Percent
import GraphViewer.Decimal.Shortest
import GraphViewer.Decimal.Rounded
import GraphViewer.Json.Value
import GraphViewer.Json.Fault
import GraphViewer.Json.Token
import GraphViewer.Json.Tree
import GraphViewer.Json.Scalar
import GraphViewer.Json.Decode
import GraphViewer.Graph.Snapshot
import GraphViewer.Graph.Groups
import GraphViewer.Graph.Payload
import GraphViewer.Merge.Suggestion
import GraphViewer.Config
import GraphViewer.Service.CollectionId
import GraphViewer.Service.Failure
import GraphViewer.Service.Request
import GraphViewer.Notice
import GraphViewer.Service.Exchange
import GraphViewer.Graph.Outcome
import GraphViewer.Service.Tickets
import GraphViewer.Geometry.Scalar
import GraphViewer.Geometry.Segment
import GraphViewer.Camera
import GraphViewer.Layout.Physics
import GraphViewer.Interaction
import GraphViewer.Layout.Basic
import GraphViewer.Layout.Pointer
import GraphViewer.Paint.Colour
import GraphViewer.Paint.Label
import GraphViewer.Paint.Style
import GraphViewer.Frame
import GraphViewer.Desk
import GraphViewer.Html
import GraphViewer.View.Panel
import GraphViewer.View.Canvas
import GraphViewer.View.State
import GraphViewer.View.Events
import GraphViewer.View.Page
import GraphViewer.Replay.Script
import GraphViewer.Replay.Basic
import GraphViewer.Replay.Step
import GraphViewer.Proofs.Offers
import GraphViewer.Proofs.Session
import GraphViewer.Proofs.Focus
import GraphViewer.Proofs.Hovering
import GraphViewer.Proofs.MergeError
import GraphViewer.Proofs.Replayed
import GraphViewer.Proofs.Operations
import GraphViewer.Proofs.Selecting
import GraphViewer.Proofs.Closing
import GraphViewer.Proofs.Remembered
import GraphViewer.Proofs.Carried
import GraphViewer.Proofs.Aiming
import GraphViewer.Proofs.Reader
import GraphViewer.Proofs.Hits
import GraphViewer.Proofs.LinkEnds
import GraphViewer.Proofs.Keys
import GraphViewer.Proofs.Switches
import GraphViewer.Proofs.Panels
import GraphViewer.Proofs.Answering
import GraphViewer.Proofs.Recovering
import GraphViewer.Proofs.Filter
import GraphViewer.Proofs.Reload
import GraphViewer.Proofs.Presses
import GraphViewer.Proofs.Pins
import GraphViewer.Proofs.ZoomLimits
import GraphViewer.Proofs.Grip
import GraphViewer.Proofs.Addresses
import GraphViewer.Proofs.Spelling
import GraphViewer.Proofs.Writing
import GraphViewer.Proofs.Members
import GraphViewer.Proofs.Rewriting
import GraphViewer.Proofs.Segments
import GraphViewer.Proofs.Nulls
import GraphViewer.Proofs.Search
import GraphViewer.Proofs.Intervals
import GraphViewer.Proofs.NumberText
import GraphViewer.Proofs.Integers
import GraphViewer.Proofs.IntegerIds
import GraphViewer.Proofs.Relations
import GraphViewer.Proofs.Clicks
import GraphViewer.Proofs.Gliding
import GraphViewer.Proofs.Styled
import GraphViewer.Proofs.Emphasis
import GraphViewer.Proofs.Wheel
import GraphViewer.Proofs.NearestPoint
import GraphViewer.Proofs.NearestLink
import GraphViewer.Proofs.ByteOrder
import GraphViewer.Proofs.Grouped
import GraphViewer.Proofs.Weights
import GraphViewer.Proofs.Calls
import GraphViewer.Proofs.Labels
import GraphViewer.Proofs.Distances
import GraphViewer.Proofs.Fading
