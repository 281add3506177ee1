import Cowsql.Wire.Errors
import Cowsql.Wire.Message
import Cowsql.Wire.Request
import Cowsql.Protocol.Conn
import Cowsql.Protocol.Recv
import Cowsql.Protocol.Call
import Cowsql.Protocol.Frames
import Cowsql.Protocol.Sticky
import Cowsql.Connector.Retry
import Cowsql.Connector.Attempt
import Cowsql.Connector.Pass
import Cowsql.Connector.Connect
import Cowsql.Driver.Exec
import Cowsql.Driver.Rows
import Cowsql.Driver.Query
import Cowsql.Driver.Session
import Cowsql.Client.Store
import Cowsql.Client.Cluster
import Cowsql.App.Handover
import Cowsql.App.New
import Cowsql.App.Run
