import Pydoop.Lib.Effect
import Pydoop.Lib.Program
import Pydoop.Lib.GroupBy
import Pydoop.Lib.BigEndian
import Pydoop.Lib.Text
import Pydoop.Sercore.SerialUtils
import Pydoop.Sercore.HuExtras
import Pydoop.Sercore.Streams
import Pydoop.Sercore.WireFormat
import Pydoop.Lib.PyDict
import Pydoop.Lib.KeyedBuffer
import Pydoop.Mapreduce.BinaryProtocol
import Pydoop.Java.BinaryProtocol
import Pydoop.Mapreduce.Downward
import Pydoop.Mapreduce.Upward
import Pydoop.Hdfs.Fs
import Pydoop.Mapreduce.Pipes
import Pydoop.Mapreduce.Driver
import Pydoop.Mapreduce.Nesting
import Pydoop.Mapreduce.Combiner
import Pydoop.Mapreduce.Grouping
import Pydoop.Mapreduce.MapTask
import Pydoop.Lib.PosixPath
import Pydoop.Hdfs.Path
import Pydoop.Hdfs.PathInfo
import Pydoop.Hdfs.File
import Pydoop.Hdfs.Chmod
import Pydoop.Hdfs.Cache
import Pydoop.Hdfs.Copy
import Pydoop.Hdfs.CopySubtree
import Pydoop.Hdfs.Walk
import Pydoop.HadoopConf
import Pydoop.Sercore.FileSplit
import Pydoop.Mapreduce.OpaqueSplit
import Pydoop.Mapreduce.Counters
import Pydoop.Avrolib
import Pydoop.Hadut
import Pydoop.App.ScriptTemplate
import Pydoop.App.Submit
import Pydoop.Hdfs.Split
import Pydoop.Hdfs.Abspath
import Pydoop.Java.OutputHandler
import Pydoop.Mapreduce.Delivery
import Pydoop.Hdfs.FileSession
import Pydoop.Hdfs.Transfer
import Pydoop.Hdfs.TreeShape
import Pydoop.Mapreduce.MapLoop
import Pydoop.Mapreduce.MapDelivery
import Pydoop.Mapreduce.Handshake
