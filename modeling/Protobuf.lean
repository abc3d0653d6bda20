import Protobuf.Wire.Varint
import Protobuf.Wire.Record
import Protobuf.Duration.Message
import Protobuf.Duration.Serialize
import Protobuf.TcParser.Table
import Protobuf.TcParser.Parse
import Protobuf.Duration.Heap
import Protobuf.Duration.RoundTrip
import Protobuf.Duration.Abstract
import Protobuf.Rust.PublicImports
import Protobuf.Duration.Compose
import Protobuf.Rust.Generate
